import BootcOperator.Effects.Leases
import BootcOperator.Effects.Locality
import BootcOperator.Effects.Tables

/-!
# Membership, exactly

What `syncMembership` leaves of every Node and BootcNode when it succeeds: the
Nodes that match have an owned BootcNode with the spec of the pool, those of
other pools are untouched and named as conflicts, and the nodes that have left
are handed back.
-/

namespace BootcOperator

open Program BootcNodePoolReconciler

variable {node : Node} {name : String} {bn : BootcNode} {look : Look}

/-! ## The two loops -/

/-- The node matches but belongs to the controller `ref`. -/
def Conflicts (pool : BootcNodePool) (matching : String → Option Node)
    (bootcNodes : String → Option BootcNode) (name : String)
    (ref : OwnerReference) : Prop :=
  matching name ≠ none ∧ ∃ bn, bootcNodes name = some bn ∧
    bn.isControlledBy pool = false ∧ bn.controllerOf = some ref

/-- What holds after the first loop has visited the names in `done`. -/
structure SyncedUpTo (r : BootcNodePoolReconciler)
    (matching : String → Option Node) (s₁ : PassState) (done : List String)
    (conflicting : List String) (s : PassState) : Prop where
  pool : s.pool = s₁.pool
  untouched : ∀ name, name ∉ done ∨ matching name = none →
    s.look name = s₁.look name
  synced : ∀ name node, name ∈ done → matching name = some node →
    ∃ conflicts,
      SyncOutcome r s₁.pool node (s₁.look name) conflicts (s.look name)
  conflicts : ∀ conflict, conflict ∈ conflicting ↔
    ∃ name ∈ done, ∃ ref,
      Conflicts s₁.pool matching s₁.world.api.bootcNode name ref ∧
        ref.name = conflict

section Loops

variable {r : BootcNodePoolReconciler} {env : Env}
  {exc : ApiError → PassState → Prop} {matching : String → Option Node}
  {s₁ : PassState} {done : List String} {conflicting : List String}
  {s : PassState}

theorem SyncOutcome.conflicts_iff
    {conflicts : List String}
    (outcome : SyncOutcome r s₁.pool node (s₁.look name) conflicts look)
    (matched : matching name = some node) (conflict : String) :
    conflict ∈ conflicts ↔ ∃ ref,
      Conflicts s₁.pool matching s₁.world.api.bootcNode name ref ∧
        ref.name = conflict := by
  cases outcome with
  | joined controlled _ =>
      simp only [List.not_mem_nil, false_iff, not_exists, not_and]
      rintro ref ⟨_, bn, isBn, foreign, _⟩ _
      rw [controlled bn isBn] at foreign
      cases foreign
  | @conflict bn isBn foreign =>
      have isStored : s₁.world.api.bootcNode name = some bn := isBn
      simp only [Option.mem_toList, Option.map_eq_some_iff,
        Conflicts, matched, isStored]
      constructor
      · rintro ⟨ref, isRef, isName⟩
        exact ⟨ref, ⟨by simp, bn, rfl, foreign, isRef⟩, isName⟩
      · rintro ⟨ref, ⟨_, other, same, _, isRef⟩, isName⟩
        cases same
        exact ⟨ref, isRef, isName⟩

theorem SyncedUpTo.visit
    (synced : SyncedUpTo r matching s₁ done conflicting s)
    (fresh : name ∉ done) (matched : matching name = some node)
    {s' : PassState} (isLocal : Local s name look s') {conflicts : List String}
    (outcome : SyncOutcome r s₁.pool node (s₁.look name) conflicts look) :
    SyncedUpTo r matching s₁ (done ++ [name]) (conflicting ++ conflicts)
      s' := by
  refine ⟨isLocal.pool.trans synced.pool, ?_, ?_, ?_⟩
  · intro other untouched
    have different : other ≠ name := by
      rintro rfl
      rcases untouched with notDone | unmatched
      · simp at notDone
      · rw [matched] at unmatched
        cases unmatched
    rw [isLocal.elsewhere other different]
    refine synced.untouched other (untouched.imp_left fun notDone => ?_)
    exact fun member => notDone (List.mem_append_left _ member)
  · intro other node' member matched'
    by_cases same : other = name
    · subst same
      rw [matched] at matched'
      cases matched'
      exact ⟨conflicts, isLocal.here ▸ outcome⟩
    · rw [isLocal.elsewhere other same]
      refine synced.synced other node' ?_ matched'
      simpa [same] using member
  · intro conflict
    rw [List.mem_append, synced.conflicts, outcome.conflicts_iff matched]
    simp only [List.mem_append, List.mem_singleton, or_and_right,
      exists_or, exists_eq_left]

theorem SyncedUpTo.skip
    (synced : SyncedUpTo r matching s₁ done conflicting s)
    (unmatched : matching name = none) :
    SyncedUpTo r matching s₁ (done ++ [name]) (conflicting ++ []) s := by
  refine ⟨synced.pool, ?_, ?_, ?_⟩
  · intro other untouched
    by_cases same : other = name
    · exact synced.untouched other (.inr (same ▸ unmatched))
    · refine synced.untouched other (untouched.imp_left fun notDone => ?_)
      exact fun member => notDone (List.mem_append_left _ member)
  · intro other node member matched
    refine synced.synced other node ?_ matched
    rcases List.mem_append.mp member with earlier | last
    · exact earlier
    · rw [List.mem_singleton.mp last, unmatched] at matched
      cases matched
  · intro conflict
    rw [List.append_nil, synced.conflicts]
    constructor
    · rintro ⟨other, member, found⟩
      exact ⟨other, List.mem_append_left _ member, found⟩
    · rintro ⟨other, member, ref, found, isName⟩
      refine ⟨other, ?_, ref, found, isName⟩
      rcases List.mem_append.mp member with earlier | last
      · exact earlier
      · rw [List.mem_singleton.mp last] at found
        exact absurd unmatched found.1

/-- What holds after the second loop has visited the names in `done`. -/
structure ClearedUpTo (matching : String → Option Node) (s₂ : PassState)
    (done : List String) (s : PassState) : Prop where
  pool : s.pool = s₂.pool
  stays : ∀ name, name ∉ done ∨ matching name ≠ none ∨ s₂.owned name = none →
    s.look name = s₂.look name
  leaves : ∀ name bn, name ∈ done → matching name = none →
    s₂.owned name = some bn →
      ∃ after, s.look name = ⟨none, after, none⟩ ∧
        HandedBack bn (s₂.world.api.node name) after

theorem ClearedUpTo.visit
    {s₂ s' : PassState} (cleared : ClearedUpTo matching s₂ done s)
    (isLocal : Local s name look s')
    (stays : matching name ≠ none ∨ s₂.owned name = none →
      look = s₂.look name)
    (leaves : ∀ bn, matching name = none → s₂.owned name = some bn →
      ∃ after, look = ⟨none, after, none⟩ ∧
        HandedBack bn (s₂.world.api.node name) after) :
    ClearedUpTo matching s₂ (done ++ [name]) s' := by
  refine ⟨isLocal.pool.trans cleared.pool, ?_, ?_⟩
  · intro other kept
    by_cases same : other = name
    · subst same
      rw [isLocal.here]
      exact stays (kept.resolve_left (by simp))
    · rw [isLocal.elsewhere other same]
      refine cleared.stays other (kept.imp_left fun notDone => ?_)
      exact fun member => notDone (List.mem_append_left _ member)
  · intro other bn member unmatched isOwned
    by_cases same : other = name
    · subst same
      rw [isLocal.here]
      exact leaves bn unmatched isOwned
    · rw [isLocal.elsewhere other same]
      refine cleared.leaves other bn ?_ unmatched isOwned
      simpa [same] using member

theorem yields_removeDeparted
    {s₂ : PassState} (stopped : Yields env exc) (notDone : name ∉ done)
    (fresh : env.Fresh) :
    unobserved.Follows (ClearedUpTo matching s₂ done)
      (removeDeparted env matching name)
      (fun _ s => ClearedUpTo matching s₂ (done ++ [name]) s) exc := by
  intro s cleared
  have here : s.look name = s₂.look name := cleared.stays name (.inl notDone)
  have isOwned : s.owned name = s₂.owned name := congrArg Look.owned here
  have isNode : s.world.api.node name = s₂.world.api.node name :=
    congrArg Look.node here
  refine (?_ : unobserved.Follows (Local s name (s.look name))
    (removeDeparted env matching name)
    (fun _ s' => ClearedUpTo matching s₂ (done ++ [name]) s') exc) s
    (.refl s name)
  refine .bindReadOf (· = s₂.owned name)
    (fun s' before => before.owned_eq.trans isOwned) fun found isFound => ?_
  refine .conseq ?_ (fun s before => before.1) (fun _ _ after => after)
    fun _ _ after => after
  cases found with
  | none =>
      refine .ret fun s' before => cleared.visit before (fun _ => here) ?_
      intro bn _ owns
      rw [← isFound] at owns
      cases owns
  | some bn =>
      cases matched : matching name with
      | some node =>
          refine .ret fun s' before => cleared.visit before (fun _ => here) ?_
          intro _ unmatched
          rw [matched] at unmatched
          cases unmatched
      | none =>
          refine .bind (.mapError (yields_removeBootcNode
            (stopped.wrap _) fresh)) fun _ => .given fun after =>
              .assume fun handedBack => ?_
          refine .update (fun _ _ => rfl) fun s' before => ?_
          refine cleared.visit (before.setOwned none) ?_ ?_
          · rintro (isMatched | isNone)
            · exact absurd matched isMatched
            · rw [← isFound] at isNone
              cases isNone
          · intro other _ isOther
            rw [← isFound] at isOther
            cases isOther
            exact ⟨after, rfl, isNode ▸ handedBack⟩

theorem yields_syncMatching
    (stopped : Yields env exc) {all : String → Option BootcNode}
    (isAll : all = s₁.world.api.bootcNode)
    (isOwned : ∀ name, s₁.owned name =
      (s₁.world.api.bootcNode name).filter (·.isControlledBy s₁.pool))
    (isNode : ∀ name node, matching name = some node →
      s₁.world.api.node name = some node)
    (notDone : name ∉ done) :
    unobserved.Follows (SyncedUpTo r matching s₁ done conflicting)
      (match matching name with
        | some node => r.syncMatchingNode env all name node
        | none => pure [])
      (fun more s =>
        SyncedUpTo r matching s₁ (done ++ [name]) (conflicting ++ more) s)
      exc := by
  cases matched : matching name with
  | none => exact .ret fun s synced => synced.skip matched
  | some node =>
      intro s synced
      have here := synced.untouched name (.inl notDone)
      have isLook : s.look name =
          ⟨s₁.world.api.bootcNode name, some node, s₁.owned name⟩ := by
        rw [here, PassState.look, isNode name node matched]
      have synchronises : unobserved.Follows
          (Local s name
            ⟨s₁.world.api.bootcNode name, some node, s₁.owned name⟩)
          (r.syncMatchingNode env all name node)
          (fun conflicts s' => ∃ look, Local s name look s' ∧
            SyncOutcome r s.pool node
              ⟨s₁.world.api.bootcNode name, some node, s₁.owned name⟩
              conflicts look) exc :=
        yields_syncMatchingNode stopped (congrFun isAll name)
          (synced.pool ▸ isOwned name)
      refine Program.Regime.Follows.conseq synchronises (fun _ before => before)
        (fun more s' after => ?_) (fun _ _ after => after) s
        (isLook ▸ Local.refl s name)
      obtain ⟨look, isLocal, outcome⟩ := after
      refine synced.visit notDone matched isLocal ?_
      rw [← here, isLook, ← synced.pool]
      exact outcome

/-! ## The whole synchronisation -/

/-- The Nodes of the cluster that the selector matches. -/
def selectedNodes (selector : Labels → Bool) (w : World) (name : String) :
    Option Node :=
  (w.api.node name).filter fun node => selector node.labels

/-- `owned` holds the BootcNodes that the pool controls. -/
def PassState.partitioned (s : PassState) : PassState :=
  { s with
    owned := fun name =>
      (s.world.api.bootcNode name).filter (·.isControlledBy s.pool) }

/-- What `syncMembership` has done when it returns, loop by loop. -/
structure MembersSynced (r : BootcNodePoolReconciler) (env : Env)
    (matching : String → Option Node) (s₁ s₂ s₃ : PassState)
    (conflicting : List String) (s' : PassState) : Prop where
  synced : SyncedUpTo r matching s₁ (env.order .matchingNodes) conflicting s₂
  cleared : ClearedUpTo matching s₂ (env.order .departedNodes) s₃
  final : s' =
    if conflicting ≠ [] then
      { s₃ with
        pool :=
          setPoolDegraded env.now poolNodeConflict
            (conflictMessage conflicting) s₃.pool }
    else s₃

theorem not_mem_of_nodup_append
    {α : Type} {items done rest : List α} {x : α} (nodup : items.Nodup)
    (split : items = done ++ x :: rest) : x ∉ done := by
  rw [split] at nodup
  exact fun member =>
    (List.nodup_append.mp nodup).2.2 x member x (by simp) rfl

theorem yields_syncMembership
    {selector : Labels → Bool} (stopped : Yields env exc)
    (faithful : env.Faithful s.world)
    (valid : r.labelSelectorAsSelector s.pool.spec.nodeSelector =
      .ok selector) :
    unobserved.Follows (· = s) (r.syncMembership env)
      (fun _ s' => ∃ s₂ s₃ conflicting,
        MembersSynced r env (selectedNodes selector s.world) s.partitioned
          s₂ s₃ conflicting s') exc := by
  have fresh := faithful.fresh
  have listed : unobserved.Follows (· = s)
      (mapError (.wrap "listing matching nodes: ") (r.listMatchingNodes env))
      (fun matching s' => s' = s ∧ matching = selectedNodes selector s.world)
      exc := by
    refine .mapError (.bindReadOf (· = s.pool) (fun _ same => same ▸ rfl)
      fun pool isPool => ?_)
    rw [isPool, valid]
    refine .mapError (.conseq (follows_query fresh
      ((stopped.wrap _).wrap _).stops) (fun _ before => before)
      (fun matching s' after => ⟨after.1.1, ?_⟩) fun _ _ after => after)
    rw [after.2, after.1.1]
    rfl
  refine .bind listed fun matching => .assume fun isMatching => ?_
  subst isMatching
  have allListed : unobserved.Follows (· = s)
      (mapError (.wrap "listing BootcNodes: ") (listAllBootcNodes env))
      (fun all s' => s' = s ∧ all = s.world.api.bootcNode) exc := by
    refine .mapError (.mapError (.conseq (follows_query fresh
      ((stopped.wrap _).wrap _).stops) (fun _ before => before)
      (fun all s' after => ⟨after.1, ?_⟩) fun _ _ after => after))
    rw [after.2, after.1]
  refine .bind allListed fun all => .assume fun isAll => ?_
  refine .bindVia (fun _ => SyncedUpTo r (selectedNodes selector s.world)
    s.partitioned [] []) (.update (fun _ _ => rfl) fun s' isState => ?_)
    fun _ => ?_
  · rw [isState, isAll]
    exact ⟨rfl, fun _ _ => rfl, by simp, by simp⟩
  refine .bind (.gather (SyncedUpTo r (selectedNodes selector s.world)
    s.partitioned) ?_) fun conflicting => ?_
  · intro done name rest gathered split
    refine yields_syncMatching stopped isAll (fun _ => rfl) ?_
      (not_mem_of_nodup_append (faithful.nodup _) split)
    intro name node matched
    exact (Option.filter_eq_some_iff.mp matched).1
  · intro s₂ synced
    refine (?_ : unobserved.Follows
      (ClearedUpTo (selectedNodes selector s.world) s₂ []) _ _ exc) s₂
      ⟨rfl, fun _ _ => rfl, by simp⟩
    refine .bind (.forEach
      (ClearedUpTo (selectedNodes selector s.world) s₂) ?_) fun _ => ?_
    · intro done name rest split
      exact yields_removeDeparted stopped
        (not_mem_of_nodup_append (faithful.nodup _) split) fresh
    · refine .ite (fun some_ => ?_) fun none_ => .ret fun s₃ cleared => ?_
      · refine .update (fun _ _ => rfl) fun s₃ cleared =>
          ⟨s₂, s₃, conflicting, synced, cleared, ?_⟩
        rw [if_pos some_]
      · refine ⟨s₂, s₃, conflicting, synced, cleared, ?_⟩
        rw [if_neg none_]

end Loops

/-- The state of the image after a synchronisation: a new image is staged
first. -/
def memberImageState (r : BootcNodePoolReconciler) (pool : BootcNodePool) :
    Option BootcNode → DesiredImageState
  | none => .staged
  | some bn =>
      if bn.spec.desiredImage = r.desiredImageFromPool pool then
        bn.spec.desiredImageState
      else .staged

/-- What `syncMembership` makes of a state, name by name. -/
structure MembershipExact (r : BootcNodePoolReconciler) (env : Env)
    (matching : String → Option Node) (s s' : PassState) : Prop where
  /-- A Node that matches and is not another pool's has an owned BootcNode
  with the spec of the pool, `RebootOnly` where the pool names no policy, and
  the managed label. -/
  joined : ∀ name node, matching name = some node →
    (∀ bn, s.world.api.bootcNode name = some bn →
      bn.isControlledBy s.pool = true) →
    ∃ bn' node',
      s'.world.api.bootcNode name = some bn' ∧ s'.owned name = some bn' ∧
      bn'.isControlledBy s.pool = true ∧
      bn'.spec =
        { desiredImage := r.desiredImageFromPool s.pool
          desiredImageState :=
            memberImageState r s.pool (s.world.api.bootcNode name)
          pullSecretRef := s.pool.spec.pullSecretRef
          rebootPolicy :=
            some ((s.pool.spec.disruption.bind (·.rebootPolicy)).getD
              .rebootOnly) } ∧
      s'.world.api.node name = some node' ∧
      node'.labels.managed.isSome = true ∧
      node'.unversioned = node.labelled.unversioned
  /-- A BootcNode of another pool, or of none, and its Node are left alone. -/
  foreign : ∀ name bn, s.world.api.bootcNode name = some bn →
    bn.isControlledBy s.pool = false →
    s'.world.api.bootcNode name = some bn ∧
      s'.world.api.node name = s.world.api.node name ∧
      s'.owned name = none
  /-- A BootcNode whose Node does not match or is gone is deleted, and a Node
  that is not terminating is handed back. -/
  left : ∀ name bn, matching name = none →
    s.world.api.bootcNode name = some bn → bn.isControlledBy s.pool = true →
    s'.world.api.bootcNode name = none ∧ s'.owned name = none ∧
    (s.world.api.node name = none → s'.world.api.node name = none) ∧
    ∀ node, s.world.api.node name = some node →
      (node.deletionTimestamp ≠ none → s'.world.api.node name = some node) ∧
      (node.deletionTimestamp = none → ∃ node',
        s'.world.api.node name = some node' ∧
        node'.labels.managed = none ∧
        node'.unschedulable =
          (if bn.annotations.known .wasCordoned = some "false" then false
          else node.unschedulable) ∧
        node'.taints = node.taints ∧
        node'.unversioned = (node.handedBack bn).unversioned)
  /-- Nothing else is touched. -/
  others : ∀ name, matching name = none → s.world.api.bootcNode name = none →
    s'.world.api.bootcNode name = none ∧
      s'.world.api.node name = s.world.api.node name ∧
      s'.owned name = none
  /-- The conflicting pools are reported, sorted and once each. -/
  reported : ∃ pools : List String,
    pools.Pairwise (fun left right => left ≤ right) ∧ pools.Nodup ∧
    (∀ conflict, conflict ∈ pools ↔ ∃ name ref,
      Conflicts s.pool matching s.world.api.bootcNode name ref ∧
        ref.name = conflict) ∧
    s'.pool =
      if pools = [] then s.pool
      else
        setPoolDegraded env.now poolNodeConflict
          ("Node selector overlaps with pool(s): " ++
            String.intercalate ", " pools) s.pool

section Exact

variable {r : BootcNodePoolReconciler} {env : Env}
  {matching : String → Option Node} {s s₂ s₃ s' : PassState}
  {conflicting : List String}
  (members : MembersSynced r env matching s.partitioned s₂ s₃ conflicting s')

include members

theorem MembersSynced.look_eq (name : String) :
    s'.look name = s₃.look name := by
  rw [members.final]
  split <;> rfl

theorem MembersSynced.outcome
    (matched : matching name = some node)
    (visited : name ∈ env.order .matchingNodes) :
    ∃ conflicts, SyncOutcome r s.pool node (s.partitioned.look name)
      conflicts (s'.look name) := by
  rw [members.look_eq, members.cleared.stays name (.inr (.inl ?_))]
  · exact members.synced.synced name node visited matched
  · simp [matched]

theorem MembersSynced.unmatched
    (unmatched : matching name = none)
    (unowned : s.partitioned.owned name = none) :
    s'.look name = s.partitioned.look name := by
  have here := members.synced.untouched name (.inr unmatched)
  have isOwned : s₂.owned name = none :=
    (congrArg Look.owned here).trans unowned
  rw [members.look_eq, members.cleared.stays name (.inr (.inr isOwned)), here]

/-- An owned BootcNode without a match leaves. -/
theorem MembersSynced.departs
    (unmatched : matching name = none)
    (isOwned : s.partitioned.owned name = some bn)
    (visited : name ∈ env.order .departedNodes) :
    ∃ after, s'.look name = ⟨none, after, none⟩ ∧
      HandedBack bn (s.world.api.node name) after := by
  have here := members.synced.untouched name (.inr unmatched)
  have stillOwned : s₂.owned name = some bn :=
    (congrArg Look.owned here).trans isOwned
  have sameNode : s₂.world.api.node name = s.world.api.node name :=
    congrArg Look.node here
  rw [members.look_eq, ← sameNode]
  exact members.cleared.leaves name bn visited unmatched stillOwned

end Exact

theorem memberBootcNode_isControlledBy
    {r : BootcNodePoolReconciler} {pool : BootcNodePool}
    {bn : Option BootcNode} (controlled : ∀ known, bn = some known →
      known.isControlledBy pool = true) :
    (memberBootcNode r pool node bn).isControlledBy pool = true := by
  cases bn with
  | none => exact newBootcNode_isControlledBy r pool node
  | some known => exact controlled known rfl

/-- The policy of the pool's `disruption`, `RebootOnly` where there is none. -/
theorem effectiveRebootPolicy_eq (pool : BootcNodePool) :
    effectiveRebootPolicy pool =
      (pool.spec.disruption.bind (·.rebootPolicy)).getD .rebootOnly := by
  unfold effectiveRebootPolicy
  cases pool.spec.disruption with
  | none => rfl
  | some disruption => rfl

theorem memberBootcNode_spec
    (r : BootcNodePoolReconciler) (pool : BootcNodePool) (node : Node)
    (bn : Option BootcNode) :
    (memberBootcNode r pool node bn).spec =
      { desiredImage := r.desiredImageFromPool pool
        desiredImageState := memberImageState r pool bn
        pullSecretRef := pool.spec.pullSecretRef
        rebootPolicy :=
          some ((pool.spec.disruption.bind (·.rebootPolicy)).getD
            .rebootOnly) } := by
  rw [← effectiveRebootPolicy_eq]
  cases bn with
  | none => rfl
  | some known =>
      simp only [memberBootcNode, BootcNode.setSpec, syncedSpec,
        memberImageState, ne_eq, ite_not]

/-- A Node that is handed back, field by field: the managed label, the
annotations that the BootcNode lists as the operator's and an operator's cordon
are taken back, and everything else stays, the startup taint included. -/
structure RestoredNode (bn : BootcNode) (node node' : Node) : Prop where
  labels : node'.labels = { node.labels with managed := none }
  annotations : ∀ key, node'.annotations.known key =
    if bn.annotations.has (nodeMarks.key key) then none
    else node.annotations.known key
  otherAnnotations : node'.annotations.other = node.annotations.other
  unschedulable : node'.unschedulable =
    if bn.annotations.known .wasCordoned = some "false" then false
    else node.unschedulable
  taints : node'.taints = node.taints
  ownerReferences : node'.ownerReferences = node.ownerReferences
  deletionTimestamp : node'.deletionTimestamp = node.deletionTimestamp
  conditions : node'.conditions = node.conditions

theorem restored_handedBack (bn : BootcNode) (node : Node) :
    RestoredNode bn node (node.handedBack bn) where
  labels := rfl
  annotations key := by
    have kept : (bn.annotations.delete .ownsOsNotReadyTaint).has
        (nodeMarks.key key) = bn.annotations.has (nodeMarks.key key) := by
      cases key <;> simp [Annotations.has, FenceMarks.key, nodeMarks]
    rw [← kept]
    exact release_known nodeMarks _ node.annotations key
  otherAnnotations := release_other nodeMarks _ node.annotations
  unschedulable := by
    simp [Node.handedBack, Node.unlabelled, restoredNode]
  taints := by
    simp [Node.handedBack, Node.unlabelled, restoredNode, Annotations.has]
  ownerReferences := rfl
  deletionTimestamp := rfl
  conditions := rfl

theorem restored_of_unversioned
    {node' : Node}
    (same : node'.unversioned = (node.handedBack bn).unversioned) :
    RestoredNode bn node node' := by
  have restored := restored_handedBack bn node
  cases node'
  simp only [Node.unversioned, Node.mk.injEq, true_and] at same
  obtain ⟨rfl, rfl, rfl, rfl, rfl, rfl, rfl⟩ := same
  exact { restored with }

section Fields

variable {r : BootcNodePoolReconciler} {env : Env} {s s₂ s₃ s' : PassState}
  {selector : Labels → Bool} {conflicting : List String}
  (faithful : env.Faithful s.world)
  (members : MembersSynced r env (selectedNodes selector s.world)
    s.partitioned s₂ s₃ conflicting s')

include faithful

/-- The loops come to every Node that matches. -/
theorem selected_visited
    (matched : selectedNodes selector s.world name = some node) (loop : Loop) :
    name ∈ env.order loop := by
  refine (faithful.covers loop).node name ?_
  simp [(Option.filter_eq_some_iff.mp matched).1]

include members

theorem MembersSynced.joined
    (matched : selectedNodes selector s.world name = some node)
    (controlled : ∀ bn, s.world.api.bootcNode name = some bn →
      bn.isControlledBy s.pool = true) :
    ∃ node', node'.unversioned = node.labelled.unversioned ∧
      s'.look name =
        { bootcNode :=
            some (memberBootcNode r s.pool node (s.world.api.bootcNode name))
          node := some node'
          owned :=
            some (memberBootcNode r s.pool node
              (s.world.api.bootcNode name)) } := by
  obtain ⟨conflicts, outcome⟩ :=
    members.outcome matched (selected_visited faithful matched _)
  generalize isLook : s'.look name = look at outcome
  cases outcome with
  | @joined node' _ labelled => exact ⟨node', labelled, rfl⟩
  | conflict stored foreign =>
      rw [controlled _ stored] at foreign
      cases foreign

theorem MembersSynced.foreign
    (stored : s.world.api.bootcNode name = some bn)
    (foreign : bn.isControlledBy s.pool = false) :
    s'.look name = ⟨some bn, s.world.api.node name, none⟩ := by
  have before : s.partitioned.look name =
      ⟨some bn, s.world.api.node name, none⟩ := by
    simp [PassState.look, PassState.partitioned, stored, foreign]
  rw [← before]
  cases matched : selectedNodes selector s.world name with
  | none =>
      exact members.unmatched matched (congrArg Look.owned before)
  | some node =>
      obtain ⟨conflicts, outcome⟩ :=
        members.outcome matched (selected_visited faithful matched _)
      generalize isLook : s'.look name = look at outcome
      cases outcome with
      | joined controlled _ =>
          rw [controlled bn stored] at foreign
          cases foreign
      | conflict _ _ => rfl

theorem MembersSynced.left
    (unmatched : selectedNodes selector s.world name = none)
    (stored : s.world.api.bootcNode name = some bn)
    (controlled : bn.isControlledBy s.pool = true) :
    ∃ after, s'.look name = ⟨none, after, none⟩ ∧
      HandedBack bn (s.world.api.node name) after := by
  have isOwned : s.partitioned.owned name = some bn := by
    simp [PassState.partitioned, stored, Option.filter_some, controlled]
  exact members.departs unmatched isOwned
    ((faithful.covers _).bootcNode name (by simp [stored]))

omit faithful in
theorem MembersSynced.others
    (unmatched : selectedNodes selector s.world name = none)
    (absent : s.world.api.bootcNode name = none) :
    s'.look name = ⟨none, s.world.api.node name, none⟩ := by
  have before : s.partitioned.look name =
      ⟨none, s.world.api.node name, none⟩ := by
    simp [PassState.look, PassState.partitioned, absent]
  rw [← before]
  exact members.unmatched unmatched (congrArg Look.owned before)

theorem MembersSynced.conflict_iff (conflict : String) :
    conflict ∈ conflicting ↔ ∃ name ref,
      Conflicts s.pool (selectedNodes selector s.world)
        s.world.api.bootcNode name ref ∧ ref.name = conflict := by
  rw [members.synced.conflicts]
  constructor
  · rintro ⟨name, _, ref, found, isName⟩
    exact ⟨name, ref, found, isName⟩
  · rintro ⟨name, ref, found, isName⟩
    obtain ⟨node, matched⟩ := Option.ne_none_iff_exists'.mp found.1
    exact ⟨name, selected_visited faithful matched _, ref, found, isName⟩

omit faithful in
theorem MembersSynced.pool_eq :
    s'.pool =
      if conflicting = [] then s.pool
      else
        setPoolDegraded env.now poolNodeConflict
          (conflictMessage conflicting) s.pool := by
  have samePool : s₃.pool = s.pool :=
    members.cleared.pool.trans members.synced.pool
  rw [members.final]
  by_cases none_ : conflicting = []
  · simp [none_, samePool]
  · simp [none_, samePool]

end Fields

/-- If `syncMembership` succeeds, the membership is exact. -/
theorem membership_exact
    (r : BootcNodePoolReconciler) (env : Env) (s s' : PassState)
    {selector : Labels → Bool} (faithful : env.Faithful s.world)
    (valid : r.labelSelectorAsSelector s.pool.spec.nodeSelector =
      .ok selector)
    (succeeds : r.syncMembership env s = (.ok (), s')) :
    MembershipExact r env (selectedNodes selector s.world) s s' := by
  obtain ⟨s₂, s₃, conflicting, members⟩ :=
    (yields_syncMembership AnyError.tolerant.yields faithful
      valid).returns rfl succeeds
  refine ⟨?_, ?_, ?_, ?_, ?_⟩
  · intro name node matched controlled
    obtain ⟨node', labelled, isLook⟩ :=
      members.joined faithful matched controlled
    have labels : node'.labels = node.labelled.labels := by
      simpa [Node.unversioned] using congrArg Node.labels labelled
    refine ⟨_, node', congrArg Look.bootcNode isLook,
      congrArg Look.owned isLook, memberBootcNode_isControlledBy controlled,
      memberBootcNode_spec r s.pool node _, congrArg Look.node isLook, ?_,
      labelled⟩
    rw [labels]
    rfl
  · intro name bn stored foreign
    have isLook := members.foreign faithful stored foreign
    exact ⟨congrArg Look.bootcNode isLook, congrArg Look.node isLook,
      congrArg Look.owned isLook⟩
  · intro name bn unmatched stored controlled
    obtain ⟨after, isLook, handedBack⟩ :=
      members.left faithful unmatched stored controlled
    have isNode : s'.world.api.node name = after := congrArg Look.node isLook
    refine ⟨congrArg Look.bootcNode isLook, congrArg Look.owned isLook,
      fun absent => ?_, fun node present => ⟨fun terminating => ?_,
        fun alive => ?_⟩⟩
    · rw [absent] at handedBack
      exact isNode.trans handedBack
    · rw [present, HandedBack, if_neg terminating] at handedBack
      exact isNode.trans handedBack
    · rw [present, HandedBack, if_pos alive] at handedBack
      obtain ⟨node', isAfter, same⟩ := handedBack
      have restored := restored_of_unversioned same
      exact ⟨node', isNode.trans isAfter, by rw [restored.labels],
        restored.unschedulable, restored.taints, same⟩
  · intro name unmatched absent
    have isLook := members.others unmatched absent
    exact ⟨congrArg Look.bootcNode isLook, congrArg Look.node isLook,
      congrArg Look.owned isLook⟩
  · have permuted := List.perm_insertionSort
      (fun left right : String => left ≤ right) conflicting.dedup
    refine ⟨conflicting.dedup.insertionSort fun left right => left ≤ right,
      List.pairwise_insertionSort _ _,
      permuted.nodup_iff.mpr conflicting.nodup_dedup, fun conflict => ?_, ?_⟩
    · rw [List.mem_insertionSort, List.mem_dedup]
      exact members.conflict_iff faithful conflict
    · rw [members.pool_eq]
      have empty : conflicting.dedup.insertionSort
          (fun left right => left ≤ right) = [] ↔ conflicting = [] := by
        rw [← List.length_eq_zero_iff, permuted.length_eq,
          List.length_eq_zero_iff, List.dedup_eq_nil]
      simp only [empty]
      rfl

/-- A Node that the pool does not know yet, a Node of another pool, and a
BootcNode whose Node is gone. -/
def threeCases : Tables :=
  { nodes :=
      [("n1", { plainNode with labels := ⟨none, []⟩ }), ("n2", plainNode)]
    bootcNodes :=
      [("n2",
        { stagedNode "os@a" "os@a" with
          ownerReferences :=
            [{ apiVersion := "node.bootc.dev/v1alpha1"
               kind := "BootcNodePool"
               name := "others"
               uid := "others-uid"
               controller := true }] }),
        ("n3", stagedNode "os@a" "os@a")] }

def beforeSync : PassState :=
  { PassState.start threeCases.world with
    pool :=
      { osPool "os@b" with
        status := { (osPool "os@b").status with targetDigest := "b" } } }

def afterSync : PassState :=
  (osReconciler.syncMembership (.calm ["n1", "n2", "n3"] 0) beforeSync).2

/-- One node joins, one conflicts and one leaves. -/
theorem membership_exact_of_three :
    (afterSync.owned "n1").map (·.spec.desiredImage) = some "os@b" ∧
      (afterSync.world.api.bootcNode "n3").isNone = true ∧
      degradedReason afterSync.pool = some poolNodeConflict ∧
      MembershipExact osReconciler (.calm ["n1", "n2", "n3"] 0)
        (selectedNodes (fun _ => true) beforeSync.world) beforeSync
        afterSync := by
  refine ⟨by decide +kernel, by decide +kernel, by decide +kernel, ?_⟩
  have succeeds : (osReconciler.syncMembership (.calm ["n1", "n2", "n3"] 0)
      beforeSync).1 = .ok () := by decide +kernel
  exact membership_exact osReconciler (.calm ["n1", "n2", "n3"] 0) beforeSync
    afterSync (Env.faithful_calm threeCases.within_names (by decide)) rfl
    (Prod.ext succeeds rfl)

end BootcOperator
