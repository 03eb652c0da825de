import BootcOperator.Effects.Tracking

/-!
# Membership as effects

The rules for `Controller.Membership`.  A node that leaves the pool is
uncordoned before its BootcNode is deleted, and after `syncMembership` every
owned BootcNode has the image of the pass.
-/

namespace BootcOperator

open Program

variable {bn : BootcNode}

@[simp]
theorem Node.store_unschedulable (server modified : Node) :
    (server.store modified).unschedulable = modified.unschedulable :=
  rfl

@[simp]
theorem PassState.putNode_node
    (s : PassState) (action : Action) (name : String) (node : Node) :
    (s.perform action (s.world.putNode name node)).world.api.node name =
      some node := by
  simp [PassState.perform, World.putNode]

theorem restoredNode_unschedulable
    {owner : Annotations BootcNodeKey} {node : Node}
    (lifted : owner.known .wasCordoned = some "false") :
    (BootcNodePoolReconciler.restoredNode owner node).unschedulable =
      false := by
  simp [BootcNodePoolReconciler.restoredNode, lifted]

theorem restoreChanges_of_lifted
    {owner : Annotations BootcNodeKey} {node : Node}
    (lifted : owner.known .wasCordoned = some "false") :
    BootcNodePoolReconciler.restoreChanges owner node = true := by
  simp [BootcNodePoolReconciler.restoreChanges, lifted]

namespace BootcNodePoolReconciler

section Node

variable {c : PassContext} {env : Env} {name : String}
  {pre : PassState → Prop} {exc : ApiError → PassState → Prop}
  (insensitive : Insensitive name pre) (stopped : Tolerant exc)

include insensitive stopped

section

variable {node : Node} {owner : Annotations BootcNodeKey}

theorem follows_ensureManagedLabel
    {call : Call} {managed : Bool}
    (labels : ∀ s, pre s → s.world.api.node name = some node →
      Effect c s.maxUnavail (.wrote call) s.world
        (s.world.putNode name
          (node.store
            { node with
              labels :=
                { node.labels with
                  managed := if managed then some "" else none } })))
    (quiet : (Action.wrote call).concernsStall = false) :
    (regime c).Follows
      (fun s => pre s ∧ s.world.api.node name = some node)
      (ensureManagedLabel env call name node managed)
      (fun node' s =>
        (pre s ∧ s.world.api.node name = some node') ∧
          node'.unschedulable = node.unschedulable ∧
          node'.labels.managed.isSome = managed) exc := by
  unfold ensureManagedLabel
  refine .ite (fun same => .ret fun s before => ⟨before, rfl, same⟩)
    fun _ => ?_
  refine follows_patchNode ?_ stopped.stops (fun s before => before.2) ?_ ?_
  · exact fun s calls before =>
      ⟨insensitive s _ (.issued name s calls) before.1, before.2⟩
  · exact fun s before => .act (by simp [quiet]) (labels s before.1 before.2)
  · refine fun s before =>
      ⟨⟨insensitive s _ (.putNode name s _ _) before.1,
        s.putNode_node _ name _⟩, rfl, ?_⟩
    cases managed <;> rfl

theorem follows_restoreNodeClaimState {current : Node} (fresh : env.Fresh) :
    (regime c).Follows
      (fun s => pre s ∧ s.world.api.node name = some current)
      (restoreNodeClaimState env name owner node)
      (fun _ s => pre s ∧ s.world.api.node name = some current) exc := by
  unfold restoreNodeClaimState
  refine .ite (fun _ => ?_) fun _ => .ret fun _ before => before
  refine .bind (.mapError
    (follows_getKarpenterNodeClaim fresh (stopped.wrap _).yields))
    fun result => ?_
  cases result with
  | noRef => exact .ret fun _ before => before.1
  | crdMissing => exact .ret fun _ before => before.1
  | absent => exact .ret fun _ before => before.1
  | found claimName claim =>
      refine .ite (fun _ => .mapError ?_) fun _ =>
        .ret fun _ before => before.1
      refine follows_patchNodeClaim ?_ (stopped.wrap _).stops
        (fun s before => before.2 claimName claim rfl)
        (NodeClaim.merge_annotations claim ?_) ?_ ?_
      · exact fun s calls before =>
          ⟨⟨insensitive s _ (.issued name s calls) before.1.1,
            before.1.2⟩, before.2⟩
      · unfold removeOwnedAnnotation
        split_ifs <;> rfl
      · exact fun s before =>
          .act rfl (.patchNodeClaim (.inl rfl) (before.2 claimName claim rfl))
      · exact fun s before =>
          ⟨insensitive s _ (.putNodeClaim name s _ _ _) before.1.1,
            before.1.2⟩

/-- A Node is restored from the records on its BootcNode. -/
theorem follows_patchRestoredNode
    (owns : ∀ s, pre s → Owns c s.world name bn)
    (records : ∀ key, key ≠ .ownsOsNotReadyTaint →
      owner.known key = bn.annotations.known key)
    (taint : owner.has .ownsOsNotReadyTaint = true →
      ∀ s, pre s → s.world.api.node name = some node →
        Completed c s.world name bn node ∧
          bn.annotations.has .ownsOsNotReadyTaint = true) :
    (regime c).Follows
      (fun s => pre s ∧ s.world.api.node name = some node)
      (patchRestoredNode env name owner node)
      (fun node' s =>
        (pre s ∧ s.world.api.node name = some node') ∧
          (bn.annotations.known .wasCordoned = some "false" →
            node'.unschedulable = false) ∧
          node'.conditions = node.conditions) exc := by
  refine .ite (fun _ => .mapError ?_) fun unchanged => ?_
  · refine follows_patchNode ?_ (stopped.wrap _).stops
      (fun s before => before.2) ?_ ?_
    · exact fun s calls before =>
        ⟨insensitive s _ (.issued name s calls) before.1, before.2⟩
    · exact fun s before =>
        .act rfl (.restoreNode (owns s before.1) before.2 records
          fun owned => taint owned s before.1 before.2)
    · refine fun s before =>
        ⟨⟨insensitive s _ (.putNode name s _ _) before.1,
          s.putNode_node _ name _⟩, fun lifted => ?_, rfl⟩
      exact restoredNode_unschedulable
        ((records .wasCordoned (by simp)).trans lifted)
  · refine .ret fun s before => ⟨before, fun lifted => ?_, rfl⟩
    exact absurd
      (restoreChanges_of_lifted
        ((records .wasCordoned (by simp)).trans lifted)) unchanged

theorem follows_restoreNodeState
    (fresh : env.Fresh) (owns : ∀ s, pre s → Owns c s.world name bn)
    (records : ∀ key, key ≠ .ownsOsNotReadyTaint →
      owner.known key = bn.annotations.known key)
    (taint : owner.has .ownsOsNotReadyTaint = true →
      ∀ s, pre s → s.world.api.node name = some node →
        Completed c s.world name bn node ∧
          bn.annotations.has .ownsOsNotReadyTaint = true) :
    (regime c).Follows
      (fun s => pre s ∧ s.world.api.node name = some node)
      (restoreNodeState env name owner node)
      (fun node' s =>
        (pre s ∧ s.world.api.node name = some node') ∧
          (bn.annotations.known .wasCordoned = some "false" →
            node'.unschedulable = false) ∧
          node'.conditions = node.conditions) exc := by
  refine .bind
    (follows_patchRestoredNode insensitive stopped owns records taint)
    fun node' => ?_
  refine .bindVia
    (fun _ s => (pre s ∧ s.world.api.node name = some node') ∧
      (bn.annotations.known .wasCordoned = some "false" →
        node'.unschedulable = false) ∧
      node'.conditions = node.conditions) ?_ fun _ => .ret fun _ after => after
  refine .mapError (.assume fun restored => ?_)
  exact .conseq
    (follows_restoreNodeClaimState insensitive (stopped.wrap _) fresh)
    (fun _ holds => holds) (fun _ _ holds => ⟨holds, restored⟩)
    (fun _ _ holds => holds)

/-- The Node of a departing BootcNode is handed back without the cordon and
without the managed label. -/
theorem follows_releaseNode
    (fresh : env.Fresh) (owns : ∀ s, pre s → Owns c s.world name bn) :
    (regime c).Follows
      (fun s => pre s ∧ s.world.api.node name = some node)
      (releaseNode env name bn node)
      (fun _ s => pre s ∧ ∀ current, s.world.api.node name = some current →
        Uncordoned s.world name bn ∧ current.labels.managed = none) exc := by
  refine .bind (.mapError
    (follows_restoreNodeState insensitive (stopped.wrap _) fresh owns ?_ ?_))
    fun node' => ?_
  · intro key different
    simp [different]
  · intro owned
    simp [Annotations.has] at owned
  · refine .assume fun restored => .bind (.mapError
      (follows_ensureManagedLabel insensitive (stopped.wrap _)
        (fun s before stored => .unlabelNode (owns s before) stored) rfl))
      fun node'' => ?_
    refine .ret fun s after => ⟨after.1.1, fun current stored => ?_⟩
    have same := Option.some.inj (after.1.2.symm.trans stored)
    subst same
    refine ⟨fun other stored' wasCordoned => ?_, by simpa using after.2.2⟩
    have same := Option.some.inj (after.1.2.symm.trans stored')
    subst same
    exact after.2.1.trans (restored.1 wasCordoned)

end

end Node

section Removal

variable {c : PassContext} {env : Env} {name : String}
  {pre : PassState → Prop} {exc : ApiError → PassState → Prop}

theorem follows_cancelDrain
    (ignores : IgnoresDrain name pre)
    (owns : ∀ s, pre s → Owns c s.world name bn) :
    (regime c).Follows pre (cancelDrain name)
      (fun _ s => pre s ∧ s.world.drains name = none) exc := by
  refine .bindRead fun found => ?_
  cases found with
  | none => exact .ret fun _ before => before
  | some drain =>
      refine .step (fun s before => .act rfl (.cancelDrain (owns s before.1)))
        fun s before => ⟨ignores s _ _ before.1, ?_⟩
      simp [PassState.perform, World.putDrain]

/-- A BootcNode is deleted without a drain and, unless its Node is
terminating, without a cordon and a managed label on it. -/
theorem follows_removeBootcNode
    {post : Unit → PassState → Prop} (insensitive : Insensitive name pre)
    (ignores : IgnoresDrain name pre) (stopped : Tolerant exc)
    (fresh : env.Fresh) (owns : ∀ s, pre s → Owns c s.world name bn)
    (leaves : c.isMember name = false) (holds : ∀ s, pre s →
      post () (s.perform (.wrote (.deleteBootcNode name))
        (s.world.putBootcNode name none))) :
    (regime c).Follows pre (removeBootcNode env name bn) post exc := by
  have quiet := insensitive.and (.drains name none)
  refine .bind (follows_cancelDrain ignores owns) fun _ => ?_
  refine .bind (.mapError (follows_query fresh (stopped.wrap _).stops))
    fun found => ?_
  have delete : (regime c).Follows
      (fun s => (pre s ∧ s.world.drains name = none) ∧
        ∀ node, s.world.api.node name = some node →
          node.deletionTimestamp ≠ none ∨
            (Uncordoned s.world name bn ∧ node.labels.managed = none))
      (mapError (.wrap "deleting BootcNode: ")
        (Pass.deleteBootcNode env (.deleteBootcNode name) name)) post exc := by
    refine .mapError (follows_deleteBootcNode ?_ (stopped.wrap _).stops ?_ ?_)
    · exact fun s calls before =>
        ⟨quiet s _ (.issued name s calls) before.1, before.2⟩
    · exact fun s before =>
        .act rfl (.deleteBootcNode (owns s before.1.1) leaves before.1.2
          before.2)
    · exact fun s before => holds s before.1.1
  cases found with
  | none =>
      refine .conseq delete (fun s before => ⟨before.1, ?_⟩)
        (fun _ _ after => after) fun _ _ after => after
      intro node stored
      rw [stored] at before
      simp at before
  | some node =>
      refine .ite (fun _ => .bind ?_ fun _ => delete) fun terminating => ?_
      · refine .conseq
          (follows_releaseNode quiet stopped fresh
            fun s before => owns s before.1)
          (fun s before => ⟨before.1, before.2.symm⟩) ?_
          fun _ _ after => after
        exact fun _ s after =>
          ⟨after.1, fun node stored => .inr (after.2 node stored)⟩
      · refine .conseq delete (fun s before => ⟨before.1, ?_⟩)
          (fun _ _ after => after) fun _ _ after => after
        intro current stored
        rw [stored, Option.some.injEq] at before
        exact .inl (before.2 ▸ terminating)

end Removal

/-! ## Synchronisation -/

theorem syncedSpec_of_eq
    {r : BootcNodePoolReconciler} {pool : BootcNodePool}
    {spec : BootcNodeSpec} (unchanged : r.syncedSpec pool spec = spec) :
    spec.desiredImage = r.desiredImageFromPool pool := by
  rw [← unchanged]
  rfl

section Sync

variable {c : PassContext}

theorem follows_syncBootcNodeSpec
    {name : String} {pre : PassState → Prop} {post : Unit → PassState → Prop}
    {exc : ApiError → PassState → Prop} (hasTarget : c.HasTarget)
    (ignores : IgnoresIssued pre) (stopped : Tolerant exc)
    (tracks : ∀ s, pre s → Tracks c s)
    (owned : ∀ s, pre s → s.owned name = some bn)
    (kept : ∀ s, pre s → bn.spec.desiredImage = c.desiredImage → post () s)
    (holds : ∀ s, pre s →
      post () (s.patched (.syncSpec name) name
        (bn.setSpec (c.reconciler.syncedSpec c.pool bn.spec)))) :
    (regime c).Follows pre
      (c.reconciler.syncBootcNodeSpec c.env name bn) post exc := by
  refine .bindReadOf (·.SameTarget c.pool)
    (fun s before => (tracks s before).target) fun pool same => ?_
  rw [same.syncedSpec]
  refine .ite (fun _ => .mapError ?_) fun unchanged => ?_
  · have owns : ∀ s, pre s → Owns c s.world name bn :=
      fun s before => (tracks s before).owns (owned s before)
    refine follows_patchBootcNode ?_ (stopped.wrap _).stops
      (fun s before => (owns s before.1).stored)
      (BootcNode.merge_spec bn _) ?_ ?_
    · exact fun s calls before => ⟨ignores s calls before.1, before.2⟩
    · exact fun s before => .act rfl (.syncSpec hasTarget (owns s before.1))
    · exact fun s before => holds s before.1
  · exact .ret fun s before =>
      kept s before.1 (syncedSpec_of_eq (not_not.mp unchanged))

/-- What holds in the loop over the matching Nodes: the Nodes not yet started
are as they were listed, and the BootcNodes done have the image of the
pass. -/
structure Syncing (c : PassContext) (matching : String → Option Node)
    (started done : List String) (s : PassState) : Prop
    extends Tracks c s where
  unresolved : s.maxUnavail = none
  listed : ∀ name node, matching name = some node → name ∉ started →
    s.world.api.node name = some node
  targeted : ∀ name bn, name ∈ done → matching name ≠ none →
    s.owned name = some bn → bn.spec.desiredImage = c.desiredImage

namespace Syncing

variable {matching : String → Option Node} {started done : List String}
  {name : String} {s : PassState}

theorem start (syncing : Syncing c matching done done s) :
    Syncing c matching (done ++ [name]) done s :=
  ⟨syncing.toTracks, syncing.unresolved,
    fun other node matched notStarted =>
      syncing.listed other node matched
        fun member => notStarted (by simp [member]),
    syncing.targeted⟩

theorem finish
    (syncing : Syncing c matching started done s)
    (targeted : ∀ bn, matching name ≠ none → s.owned name = some bn →
      bn.spec.desiredImage = c.desiredImage) :
    Syncing c matching started (done ++ [name]) s := by
  refine ⟨syncing.toTracks, syncing.unresolved, syncing.listed, ?_⟩
  intro other bn member matched owned
  rcases List.mem_append.mp member with earlier | last
  · exact syncing.targeted other bn earlier matched owned
  · have same := List.mem_singleton.mp last
    subst same
    exact targeted bn matched owned

theorem insensitive (member : name ∈ started) :
    Insensitive name (Syncing c matching started done) := by
  intro s s' alike syncing
  refine ⟨Tracks.insensitive c name s s' alike syncing.toTracks,
    alike.maxUnavail ▸ syncing.unresolved, ?_,
    alike.owned ▸ syncing.targeted⟩
  intro other node matched notStarted
  rw [alike.node other fun same => notStarted (same ▸ member)]
  exact syncing.listed other node matched notStarted

theorem setTargeted
    (syncing : Syncing c matching started done s) {s' : PassState}
    (tracks : Tracks c s') (sameBudget : s'.maxUnavail = s.maxUnavail)
    (sameNodes : s'.world.api.node = s.world.api.node)
    (sameOwned : ∀ other, other ≠ name → s'.owned other = s.owned other)
    (owned : s'.owned name = some bn)
    (targeted : bn.spec.desiredImage = c.desiredImage) :
    Syncing c matching started (done ++ [name]) s' := by
  refine ⟨tracks, sameBudget.trans syncing.unresolved,
    sameNodes ▸ syncing.listed, ?_⟩
  intro other bn' member matched owned'
  by_cases same : other = name
  · subst same
    rw [owned, Option.some.injEq] at owned'
    exact owned' ▸ targeted
  · refine syncing.targeted other bn' ?_ matched (sameOwned other same ▸ owned')
    rcases List.mem_append.mp member with earlier | last
    · exact earlier
    · exact absurd (List.mem_singleton.mp last) same

end Syncing

theorem newBootcNode_isControlledBy
    (r : BootcNodePoolReconciler) (pool : BootcNodePool) (node : Node) :
    (r.newBootcNode pool node).isControlledBy pool = true := by
  simp [newBootcNode, BootcNode.isControlledBy, BootcNode.controllerOf]

variable {matching : String → Option Node} {started done : List String}
  {name : String} {node : Node}

variable {s : PassState} {exc : ApiError → PassState → Prop}

/-- A creation either makes an owned BootcNode with the image of the pass or,
when a BootcNode of that name exists, changes nothing. -/
theorem follows_createMatching
    (hasTarget : c.HasTarget) (member : name ∈ started)
    (reached : ∀ loop, name ∈ c.env.order loop) :
    (regime c).Follows
      (fun s => (Syncing c matching started done s ∧
        s.world.api.node name = some node) ∧ s.owned name = none)
      (c.reconciler.createBootcNode c.env name node)
      (fun bn s =>
        Syncing c matching started (done ++ [name])
          (s.setOwned name (some bn)))
      (fun e s => e.Routine ∨ e.kind = .alreadyExists ∧
        Syncing c matching started (done ++ [name]) s) := by
  have stopped : Tolerant fun e s => e.Routine ∨ e.kind = .alreadyExists ∧
      Syncing c matching started (done ++ [name]) s :=
    fun _ _ routine => .inl routine
  refine .bindReadOf (·.SameTarget c.pool)
    (fun s before => before.1.1.target) fun pool same => ?_
  simp only [same.newBootcNode]
  refine .bindVia
    (fun _ s => Syncing c matching started (done ++ [name])
      (s.setOwned name (some (c.reconciler.newBootcNode c.pool node))) ∧
        s.world.api.node name = some node) (.mapError ?_) fun _ => ?_
  · refine follows_createBootcNode ?_ (stopped.wrap _).stops ?_ ?_ ?_
    · exact fun s calls before =>
        ⟨⟨⟨Syncing.insensitive member s _ (.issued name s calls)
          before.1.1.1, before.1.1.2⟩, before.1.2⟩, before.2⟩
    · exact fun e s exists_ before _ =>
        .inr ⟨exists_, before.1.1.1.finish fun bn _ owned => by
          simp [before.1.2] at owned⟩
    · exact fun s before absent =>
        .act rfl (.createBootcNode hasTarget absent before.1.1.2)
    · refine fun s before _ => ⟨?_, before.1.1.2⟩
      exact before.1.1.1.setTargeted
        (before.1.1.1.toTracks.patched reached
          (newBootcNode_isControlledBy _ _ _))
        rfl rfl (fun other different =>
          s.patched_owned_of_ne _ _ different)
        (s.patched_owned_self _ _ _) rfl
  · refine .bind (.mapError (follows_ensureManagedLabel
      (fun s s' alike before =>
        Syncing.insensitive member _ _ (alike.setOwned _ _) before)
      (stopped.wrap _) (fun s before stored => ?_) rfl)) fun _ => ?_
    · have owns : Owns c s.world name (c.reconciler.newBootcNode c.pool node) :=
        before.toTracks.owns (by simp [PassState.setOwned])
      exact .labelNode owns.stored stored
    exact .ret fun s after => after.1.1

theorem follows_syncMatchingNode
    {all : String → Option BootcNode} (hasTarget : c.HasTarget)
    (stopped : Tolerant exc) (member : name ∈ started)
    (reached : ∀ loop, name ∈ c.env.order loop) :
    (regime c).Follows
      (fun s => Syncing c matching started done s ∧
        s.world.api.node name = some node)
      (c.reconciler.syncMatchingNode c.env all name node)
      (fun _ s => Syncing c matching started (done ++ [name]) s) exc := by
  refine .bindRead fun found => ?_
  cases found with
  | none =>
      refine .bind (.attempt (follows_createMatching hasTarget member reached))
        fun result => ?_
      cases result with
      | ok bn =>
          exact .bind (.update (fun _ _ => rfl) fun _ after => after)
            fun _ => .ret fun _ after => after
      | error err =>
          refine .ite (fun other => .fail fun s before => ?_) fun same =>
            .ret fun s before => ?_
          · rcases before with routine | refused
            · exact stopped _ s routine
            · exact absurd refused.1 other
          · rcases before with routine | refused
            · rw [ApiError.Routine, not_not.mp same] at routine
              simp at routine
            · exact refused.2
  | some bn =>
      have quiet : Insensitive name fun s =>
          Syncing c matching started done s ∧ s.owned name = some bn :=
        (Syncing.insensitive member).and (.owned name name (some bn))
      have labelled : (regime c).Follows
          (fun s => (Syncing c matching started done s ∧
            s.world.api.node name = some node) ∧ s.owned name = some bn)
          (mapError (.wrap ("ensuring managed label for " ++ name ++ ": "))
            (ensureManagedLabel c.env (.labelNode name) name node true))
          (fun _ s =>
            Syncing c matching started done s ∧ s.owned name = some bn)
          exc := by
        refine .mapError (.conseq
          (follows_ensureManagedLabel quiet (stopped.wrap _)
            (fun s before stored =>
              .labelNode (before.1.toTracks.owns before.2).stored stored) rfl)
          (fun s before => ⟨⟨before.1.1, before.2⟩, before.1.2⟩)
          (fun _ s after => after.1.1) fun _ _ after => after)
      refine .bind labelled fun _ => .bind (.mapError ?_) fun _ =>
        .ret fun _ after => after
      refine follows_syncBootcNodeSpec hasTarget quiet.ignoresIssued
        (stopped.wrap _) (fun s before => before.1.toTracks)
        (fun s before => before.2) ?_ ?_
      · intro s before targeted
        refine before.1.finish fun bn' _ owned => ?_
        rw [before.2, Option.some.injEq] at owned
        exact owned ▸ targeted
      · intro s before
        refine before.1.setTargeted
          (before.1.toTracks.patched reached ?_) rfl rfl
          (fun other different => s.patched_owned_of_ne _ _ different)
          (s.patched_owned_self _ _ _) rfl
        exact (before.1.toTracks.owns before.2).controlled

/-- Of the nodes in `done`, those that left are removed. -/
structure Departing (c : PassContext) (matching : String → Option Node)
    (done : List String) (s : PassState) : Prop extends Tracks c s where
  unresolved : s.maxUnavail = none
  targeted : ∀ name bn, matching name ≠ none → s.owned name = some bn →
    bn.spec.desiredImage = c.desiredImage
  departed : ∀ name, name ∈ done → s.owned name ≠ none →
    matching name ≠ none

theorem Departing.insensitive :
    Insensitive name (Departing c matching done) := by
  intro s s' alike departing
  exact ⟨Tracks.insensitive c name s s' alike departing.toTracks,
    alike.maxUnavail ▸ departing.unresolved,
    alike.owned ▸ departing.targeted, alike.owned ▸ departing.departed⟩

theorem Departing.ignoresDrain :
    IgnoresDrain name (Departing c matching done) :=
  fun s action drain departing =>
    ⟨Tracks.ignoresDrain c name s action drain departing.toTracks,
      departing.unresolved, departing.targeted, departing.departed⟩

theorem Departing.stays
    (departing : Departing c matching done s)
    (stays : s.owned name ≠ none → matching name ≠ none) :
    Departing c matching (done ++ [name]) s := by
  refine ⟨departing.toTracks, departing.unresolved, departing.targeted, ?_⟩
  intro other member owned
  rcases List.mem_append.mp member with earlier | last
  · exact departing.departed other earlier owned
  · have same := List.mem_singleton.mp last
    subst same
    exact stays owned

theorem Departing.leaves
    (departing : Departing c matching done s) {action : Action} :
    Departing c matching (done ++ [name])
      ((s.perform action (s.world.putBootcNode name none)).setOwned name
        none) := by
  have remains : ∀ other,
      ((s.perform action (s.world.putBootcNode name none)).setOwned name
        none).owned other ≠ none → other ≠ name ∧ s.owned other ≠ none := by
    intro other owned
    by_cases same : other = name
    · simp [PassState.setOwned, same] at owned
    · refine ⟨same, ?_⟩
      simpa [PassState.setOwned, PassState.perform, same] using owned
  refine ⟨departing.toTracks.removed, departing.unresolved, ?_, ?_⟩
  · intro other bn matched owned
    have present := remains other (by simp [owned])
    refine departing.targeted other bn matched ?_
    simpa [PassState.setOwned, PassState.perform, present.1] using owned
  · intro other member owned
    have present := remains other owned
    refine departing.departed other ?_ present.2
    rcases List.mem_append.mp member with earlier | last
    · exact earlier
    · exact absurd (List.mem_singleton.mp last) present.1

theorem follows_removeDeparted
    (stopped : Tolerant exc) (fresh : c.env.Fresh)
    (members : ∀ name, c.isMember name = (matching name).isSome) :
    (regime c).Follows (Departing c matching done)
      (removeDeparted c.env matching name)
      (fun _ s => Departing c matching (done ++ [name]) s) exc := by
  refine .bindRead fun found => ?_
  cases found with
  | none =>
      exact .ret fun s before => before.1.stays fun owned =>
        absurd before.2 owned
  | some bn =>
      cases matched : matching name with
      | some node =>
          exact .ret fun s before => before.1.stays fun _ => by
            simp [matched]
      | none =>
          refine .bindVia
            (fun _ s => Departing c matching (done ++ [name])
              (s.setOwned name none)) ?_ fun _ =>
            .update (fun _ _ => rfl) fun _ after => after
          refine .mapError (follows_removeBootcNode
            (Departing.insensitive.and (.owned name name (some bn)))
            (fun s action drain before =>
              ⟨Departing.ignoresDrain s action drain before.1, before.2⟩)
            (stopped.wrap _) fresh
            (fun s before => before.1.toTracks.owns before.2)
            (by simp [members, matched])
            fun s before => before.1.leaves)

theorem follows_listMatchingNodes
    {pre : PassState → Prop} (stopped : Tolerant exc)
    (invalid : ∀ e s, e.kind = .invalidSpec → pre s → exc e s)
    (fresh : c.env.Fresh) :
    (regime c).Follows pre (c.reconciler.listMatchingNodes c.env)
      (fun matching s => pre s ∧ ∃ selector,
        c.reconciler.labelSelectorAsSelector s.pool.spec.nodeSelector =
          .ok selector ∧
        ∀ name, matching name =
          (s.world.api.node name).filter fun node => selector node.labels)
      exc := by
  refine .bindRead fun pool => ?_
  split
  · exact .fail fun s before => invalid _ s rfl before.1
  · next selector valid =>
      refine .mapError (.conseq (follows_query fresh (stopped.wrap _).stops)
        (fun _ before => before)
        (fun matching s after => ⟨after.1.1, selector, ?_, ?_⟩)
        fun _ _ after => after)
      · rw [after.1.2, valid]
      · intro name
        rw [after.2]

/-- The owned BootcNodes are those the pool controls. -/
theorem Syncing.of_ready
    {all : String → Option BootcNode} (ready : Ready c s)
    (listed : ∀ name node, matching name = some node →
      s.world.api.node name = some node) (isAll : all = s.world.api.bootcNode) :
    Syncing c matching [] []
      { s with
        owned := fun name => (all name).filter (·.isControlledBy s.pool) } := by
  subst isAll
  refine ⟨⟨ready.target, ?_, ?_, ready.unhalted⟩, ready.unresolved,
    fun name node matched _ => listed name node matched, by simp⟩
  · intro name
    simp only [ready.target.isControlledBy]
  · intro loop name present
    refine (ready.faithful.covers loop).bootcNode name ?_
    intro absent
    simp [absent] at present

/-- Once all matching Nodes are done, only departed nodes can have another
image. -/
theorem Syncing.departing
    (syncing : Syncing c matching (c.env.order .matchingNodes)
      (c.env.order .matchingNodes) s) (reached : ∀ name, matching name ≠ none →
      name ∈ c.env.order .matchingNodes) :
    Departing c matching [] s :=
  ⟨syncing.toTracks, syncing.unresolved,
    fun name bn matched =>
      syncing.targeted name bn (reached name matched) matched,
    by simp⟩

theorem Departing.targets
    (departing : Departing c matching (c.env.order .departedNodes) s)
    (members : ∀ name, c.isMember name = (matching name).isSome) :
    Targets c none s := by
  have matched : ∀ name, s.owned name ≠ none → matching name ≠ none :=
    fun name owned => departing.departed name
      (departing.covered .departedNodes name owned) owned
  refine ⟨departing.toTracks, departing.unresolved, ?_, ?_⟩
  · intro name bn owned
    exact departing.targeted name bn (matched name (by simp [owned])) owned
  · intro name owned
    rw [members, Option.isSome_iff_ne_none]
    exact matched name owned

/-- After `syncMembership` all owned BootcNodes have the image of the pass. -/
theorem follows_syncMembership :
    (regime c).Follows (Ready c) (c.reconciler.syncMembership c.env)
      (fun _ s => Targets c none s) (BlamesSpec c) := by
  have stopped := BlamesSpec.tolerant c
  refine .know (c.env.Fresh)
    (fun s ready => ready.faithful.fresh) fun fresh => ?_
  refine .know (∀ loop, (c.env.order loop).Nodup)
    (fun s ready => ready.faithful.nodup) fun nodup => ?_
  refine .know c.HasTarget (fun s ready => ready.hasTarget)
    fun hasTarget => ?_
  refine .bind (.mapError (follows_listMatchingNodes (stopped.wrap _)
    (fun e s _ ready _ =>
      ⟨ready.target, ready.unhalted, ready.unresolved⟩) fresh)) fun matching => ?_
  have isListed : ∀ s : PassState, Ready c s ∧ (∃ selector,
      c.reconciler.labelSelectorAsSelector s.pool.spec.nodeSelector =
        .ok selector ∧ ∀ name, matching name =
          (s.world.api.node name).filter fun node => selector node.labels) →
      ∀ name node, matching name = some node →
        s.world.api.node name = some node := by
    rintro s ⟨_, selector, _, isMatching⟩ name node matched
    rw [isMatching] at matched
    exact (Option.filter_eq_some_iff.mp matched).1
  refine .know
    (∀ loop name, matching name ≠ none → name ∈ c.env.order loop) ?_
    fun reached => .know (∀ name, c.isMember name = (matching name).isSome)
      ?_ fun members => ?_
  · intro s before loop name matched
    obtain ⟨node, isNode⟩ := Option.ne_none_iff_exists'.mp matched
    refine (before.1.faithful.covers loop).node name ?_
    simp [isListed s before name node isNode]
  · rintro s ⟨ready, selector, valid, isMatching⟩ name
    rw [ready.target.spec] at valid
    rw [isMatching, ready.members selector valid]
  refine .bind (.mapError (.mapError
    (follows_query fresh ((stopped.wrap _).wrap _).stops))) fun all => ?_
  refine .bindVia (fun _ => Syncing c matching [] [])
    (.update (fun _ _ => rfl) fun s before =>
      Syncing.of_ready before.1.1 (isListed s before.1) before.2) fun _ => ?_
  refine .bind (.gather
    (fun done _ => Syncing c matching done done) ?_) fun conflicting => ?_
  · intro done name rest gathered split
    have notDone : name ∉ done := by
      have distinct := nodup .matchingNodes
      rw [split] at distinct
      exact fun member =>
        (List.nodup_append.mp distinct).2.2 name member name (by simp) rfl
    cases matched : matching name with
    | none =>
        exact .ret fun s before =>
          before.start.finish fun _ present => absurd matched present
    | some node =>
        refine .conseq (follows_syncMatchingNode hasTarget stopped (by simp)
          fun loop => reached loop name (by simp [matched]))
          (fun s before => ⟨before.start,
            before.listed name node matched notDone⟩)
          (fun _ _ after => after) fun _ _ after => after
  · refine .bind (.conseq (.forEach (Departing c matching) ?_)
      (fun s before => before.departing fun name => reached _ name)
      (fun _ s after => after.targets members) fun _ _ after => after)
      fun _ => ?_
    · exact fun done name rest _ =>
        follows_removeDeparted stopped fresh members
    · refine .ite (fun _ => ?_) fun _ => .ret fun _ before => before
      exact .update (fun _ _ => rfl) fun s before =>
        ⟨⟨before.target.setPoolDegraded _ _ _, before.owned, before.covered,
          before.unhalted⟩, before.resolved, before.targeted,
          before.members⟩

end Sync

end BootcNodePoolReconciler

end BootcOperator
