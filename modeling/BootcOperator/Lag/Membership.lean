import BootcOperator.Effects.Membership
import BootcOperator.Lag.Memory

/-!
# Membership with lagging reads

The rules of `syncMembership` and `handlePoolDeletion` for a pass whose reads
lag.  A BootcNode is patched with its slot left alone, and a Node that leaves
is restored from the record of its slot.
-/

namespace BootcOperator

open Program

variable {call : Call} {pre : PassState → Prop} {bn : BootcNode} {node : Node}
  {leaving : Set String} {exc : ApiError → PassState → Prop} {name : String}

/-- A fact that a Node write disturbs only through the cordon. -/
def IgnoresLabels (name : String) (pre : PassState → Prop) : Prop :=
  ∀ s node modified action, pre s → s.world.api.node name = some node →
    modified.unschedulable = node.unschedulable →
    pre (s.perform action (s.world.putNode name (node.store modified)))

/-- A fact about the BootcNodes and the memory of them. -/
def Recorded (pre : PassState → Prop) : Prop :=
  ∀ s s', SameRecords s s' → pre s → pre s'

theorem Recorded.steady (recorded : Recorded pre) : Steady pre :=
  fun s s' calm before => recorded s s' calm.toSameRecords before

theorem Recorded.and
    {pre' : PassState → Prop} (recorded : Recorded pre)
    (recorded' : Recorded pre') : Recorded fun s => pre s ∧ pre' s :=
  fun s s' records before =>
    ⟨recorded s s' records before.1, recorded' s s' records before.2⟩

theorem Recorded.owned (name : String) (bn : Option BootcNode) :
    Recorded fun s => s.owned name = bn :=
  fun _ _ records owned => (congrFun records.owned name).trans owned

/-- The slot in the server is that of the pass's copy. -/
def Held (c : LagContext) (name : String) (bn : BootcNode) (s : PassState) :
    Prop :=
  ∀ server, s.world.api.bootcNode name = some server → c.SameSlot server bn

theorem Held.recorded (c : LagContext) (name : String) (bn : BootcNode) :
    Recorded (Held c name bn) :=
  fun _ _ records held server stored =>
    held server (records.bootcNode ▸ stored)

section

variable {c : LagContext} {freed : Set String} {s : PassState}

theorem Lags.held (lags : Lags c ∅ freed s) (owned : s.owned name = some bn) :
    Held c name bn s := by
  intro server stored
  obtain ⟨found, isFound, _, record⟩ := lags.known name bn (by simp) owned
  have same := stored.symm.trans isFound
  cases same
  exact record

theorem Lags.merged
    {modified : BootcNode} (lags : Lags c ∅ freed s)
    (owned : s.owned name = some bn) {server : BootcNode}
    (stored : s.world.api.bootcNode name = some server)
    (slot : modified.annotations.known .inRebootSlot =
      bn.annotations.known .inRebootSlot)
    (cordon : modified.annotations.known .wasCordoned =
      bn.annotations.known .wasCordoned) (call : Call) :
    Lags c ∅ freed (s.patched call name (bn.merge modified server)) := by
  refine lags.patched owned stored rfl fun free _ => ?_
  have merged := BootcNode.merge_slotRecord slot cordon server
  rw [← (lags.held owned server stored).slot]
  exact (congrArg Prod.fst merged).symm.trans free

theorem Genuine.putNode (s : PassState) (action : Action) (node : Node) :
    Genuine name node (s.perform action (s.world.putNode name node)) := by
  intro server stored
  rw [s.putNode_node, Option.some.injEq] at stored
  exact stored ▸ .refl node

theorem Lags.leave (lags : Lags c ∅ freed s) :
    Lags c leaving freed s :=
  { uid := lags.uid
    spec := lags.spec
    reached := lags.reached
    known := fun name bn _ => lags.known name bn (by simp)
    slots := fun name _ => lags.slots name (by simp)
    versions := lags.versions
    untouched := fun name bn _ => lags.untouched name bn (by simp) }

theorem Lags.free (lags : Lags c leaving ∅ s) :
    Lags c leaving freed s :=
  { lags with
    untouched := fun name bn stays owned free _ =>
      lags.untouched name bn stays owned free (by simp) }

end

namespace BootcNodePoolReconciler

section Node

variable {c : LagContext}

theorem lag_patchNode
    {modified : Node} (stopped : Tolerant exc) (steady : Steady pre)
    (ignores : IgnoresLabels name pre)
    (other : (Action.wrote call).handlesSlot = false)
    (kept : modified.unschedulable = node.unschedulable) :
    (lagRegime c).Follows (fun s => pre s ∧ Genuine name node s)
      (Pass.patchNode c.env call name node modified)
      (fun node' s => pre s ∧ Genuine name node' s) exc := by
  refine follows_patchNode_locked
    (steady.and (Genuine.steady node)).ignoresIssued stopped.stops
    (fun e s routine _ _ => stopped e s routine)
    (fun s server before stored unlocked => before.2.locked stored unlocked)
    ?_ ?_
  · exact fun s before stored => .act (.patchNode other stored kept)
  · intro s before stored
    exact ⟨ignores s node modified _ before.1 stored kept,
      Genuine.putNode s _ _⟩

theorem lag_ensureManagedLabel
    {managed : Bool} (stopped : Tolerant exc) (steady : Steady pre)
    (ignores : IgnoresLabels name pre)
    (other : (Action.wrote call).handlesSlot = false) :
    (lagRegime c).Follows (fun s => pre s ∧ Genuine name node s)
      (ensureManagedLabel c.env call name node managed)
      (fun node' s => pre s ∧ Genuine name node' s) exc :=
  .ite (fun _ => .ret fun _ before => before) fun _ =>
    lag_patchNode stopped steady ignores other rfl

theorem aside_restoreNodeClaimState
    (owner : Annotations BootcNodeKey) (node : Node) :
    Aside c (restoreNodeClaimState c.env name owner node) := by
  refine Moves.ite ?_ (Moves.ret _)
  refine Moves.bind (aside_getKarpenterNodeClaim _ node).mapError
    fun result => ?_
  cases result.claim with
  | none => exact Moves.ret _
  | some found =>
      refine Moves.ite ?_ (Moves.ret _)
      exact (aside_patchNodeClaim rfl _ _ _).mapError

/-- The cordon is lifted where the record asks for it. -/
def Lifted (name : String) (owner : Annotations BootcNodeKey)
    (s : PassState) : Prop :=
  ∀ node, s.world.api.node name = some node →
    owner.known .wasCordoned = some "false" → node.unschedulable = false

theorem Lifted.steady (owner : Annotations BootcNodeKey) :
    Steady (Lifted name owner) :=
  fun _ _ calm lifted node stored => lifted node (calm.node ▸ stored)

/-- A Node whose cordon no longer matters to the memory of the pass is
restored from the record of its slot. -/
theorem lag_restoreNodeState
    {freed : Set String} {owner : Annotations BootcNodeKey}
    (recorded : Recorded pre) (released : name ∈ leaving ∨ name ∈ freed)
    (record : c.ShowsRecords → ∀ s bn, pre s →
      s.world.api.bootcNode name = some bn →
      bn.inRebootSlot = true →
      owner.known .wasCordoned = bn.annotations.known .wasCordoned) :
    (lagRegime c).Follows
      (fun s => (Lags c leaving freed s ∧ pre s) ∧ Genuine name node s)
      (restoreNodeState c.env name owner node)
      (fun node' s => ((Lags c leaving freed s ∧ pre s) ∧
        Genuine name node' s) ∧ Lifted name owner s)
      AnyError := by
  have steady (node' : Node) : Steady fun s =>
      (Lags c leaving freed s ∧ pre s) ∧ Genuine name node' s :=
    ((Lags.steady c leaving freed).and recorded.steady).and
      (Genuine.steady node')
  refine .bindVia
    (fun node' s => ((Lags c leaving freed s ∧ pre s) ∧
      Genuine name node' s) ∧ Lifted name owner s)
    ?_ fun node' => .bindVia
      (fun _ s => ((Lags c leaving freed s ∧ pre s) ∧
        Genuine name node' s) ∧ Lifted name owner s)
      ?_ fun _ => .ret fun _ after => after
  · refine .ite (fun _ => .mapError ?_) fun unchanged => .ret
      fun s before => ⟨before, fun _ _ lifts =>
        absurd (restoreChanges_of_lifted lifts) unchanged⟩
    refine follows_patchNode_locked (steady node).ignoresIssued
      (fun _ _ _ _ _ => trivial) (fun _ _ _ _ _ => trivial)
      (fun s server before stored unlocked =>
        before.2.locked stored unlocked) ?_ ?_
    · exact fun s before stored =>
        .act (.restoreNode stored fun shows bn => record shows s bn before.1.2)
    · intro s before stored
      refine ⟨⟨⟨before.1.1.putNode stored _ ?_ _, ?_⟩,
        Genuine.putNode s _ _⟩, ?_⟩
      · rcases released with leaves | done
        · exact .inr (.inl leaves)
        · exact .inr (.inr (.inl done))
      · exact recorded s _ (sameRecords_putNode s _ _) before.1.2
      · intro server isServer lifts
        rw [s.putNode_node, Option.some.injEq] at isServer
        simp [← isServer, Node.store, restoredNode, lifts]
  · exact .mapError ((aside_restoreNodeClaimState owner node').follows
      ((steady node').and (Lifted.steady owner)) fun _ _ _ => trivial)

end Node

section Removal

variable {c : LagContext}

variable {freed : Set String}

theorem aside_cancelDrain (name : String) : Aside c (cancelDrain name) := by
  refine Moves.bind (Moves.read _) fun entry => ?_
  cases entry with
  | none => exact Moves.ret _
  | some status => exact Moves.update fun _ => .perform rfl rfl rfl

theorem Lags.ignoresLabels (recorded : Recorded pre) :
    IgnoresLabels name fun s => Lags c leaving freed s ∧ pre s :=
  fun s _ _ _ before stored kept =>
    ⟨before.1.putNode stored _ (.inl kept) _,
      recorded s _ (sameRecords_putNode s _ _) before.2⟩

theorem lag_releaseNode
    (recorded : Recorded pre) (member : name ∈ leaving)
    (held : ∀ s, pre s → Held c name bn s) :
    (lagRegime c).Follows
      (fun s => (Lags c leaving freed s ∧ pre s) ∧ Genuine name node s)
      (releaseNode c.env name bn node)
      (fun _ s => Lags c leaving freed s ∧ pre s) AnyError := by
  refine .bind (.mapError (lag_restoreNodeState recorded
    (.inl member) ?_)) fun node' => ?_
  · intro shows s server before stored _
    simp [(held s before server stored).cordon shows]
  · refine .bind (.mapError (.weaken (lag_ensureManagedLabel
      AnyError.tolerant ((Lags.steady c leaving freed).and recorded.steady)
      (Lags.ignoresLabels recorded) rfl) fun _ before => before.1))
      fun _ => ?_
    exact .ret fun _ after => after.1

/-- What a removed BootcNode leaves. -/
theorem lag_removeBootcNode
    {post : Unit → PassState → Prop} (serves : c.ServesNodes)
    (recorded : Recorded pre) (member : name ∈ leaving)
    (held : ∀ s, pre s → Held c name bn s)
    (holds : ∀ s, Lags c leaving freed s ∧ pre s →
      post () (s.perform (.wrote (.deleteBootcNode name))
        (s.world.putBootcNode name none))) :
    (lagRegime c).Follows (fun s => Lags c leaving freed s ∧ pre s)
      (removeBootcNode c.env name bn) post AnyError := by
  have steady := (Lags.steady c leaving freed).and recorded.steady
  have delete : (lagRegime c).Follows
      (fun s => Lags c leaving freed s ∧ pre s)
      (mapError (.wrap "deleting BootcNode: ")
        (Pass.deleteBootcNode c.env (.deleteBootcNode name) name)) post
      AnyError :=
    .mapError (follows_deleteBootcNode steady.ignoresIssued
      (fun _ _ _ _ _ => trivial) (fun _ _ => .act .deleteBootcNode) holds)
  refine .bind ((aside_cancelDrain name).follows steady
    fun _ _ _ => trivial) fun _ => ?_
  refine .bind (.mapError (follows_query_view fun _ _ _ _ _ => trivial))
    fun found => ?_
  cases found with
  | none =>
      exact .conseq delete (fun _ before => before.1)
        (fun _ _ after => after) fun _ _ after => after
  | some node =>
      refine .ite (fun _ => .bind (.conseq
        (lag_releaseNode recorded member held) (fun s before => ?_)
        (fun _ _ after => after) fun _ _ after => after) fun _ => delete)
        fun _ => .conseq delete (fun _ before => before.1)
          (fun _ _ after => after) fun _ _ after => after
      exact ⟨before.1, Lags.genuine before.1.1.versions serves (by simp)
        before.2.symm⟩

/-- The other BootcNodes stay as they are listed when one is deleted. -/
theorem Held.deleted
    {other : String} {s : PassState} (held : Held c other bn s)
    (action : Action) :
    Held c other bn (s.perform action (s.world.putBootcNode name none)) := by
  intro server stored
  change (s.world.putBootcNode name none).api.bootcNode other = _ at stored
  rw [s.world.putBootcNode_bootcNode] at stored
  split_ifs at stored
  exact held server stored

theorem lag_removeDeparted
    {matching : String → Option Node} (serves : c.ServesNodes) :
    (lagRegime c).Follows (Lags c ∅ freed)
      (removeDeparted c.env matching name)
      (fun _ s => Lags c ∅ freed s) AnyError := by
  refine .bindRead fun found => ?_
  cases found with
  | none => exact .ret fun _ before => before.1
  | some bn =>
      cases matching name with
      | some node => exact .ret fun _ before => before.1
      | none =>
          refine .bindVia (fun _ s => Lags c ∅ freed (s.setOwned name none)) ?_
            fun _ => .update (fun _ _ => rfl) fun _ after => after
          have removed : (lagRegime c).Follows
              (fun s => Lags c {name} freed s ∧ Held c name bn s)
              (removeBootcNode c.env name bn)
              (fun _ s => Lags c ∅ freed (s.setOwned name none)) AnyError :=
            lag_removeBootcNode serves (Held.recorded c name bn) rfl
              (fun _ held => held) fun s before => before.1.removed _
          exact .mapError (.conseq removed
            (fun s before => ⟨before.1.leave, before.1.held before.2⟩)
            (fun _ _ after => after) fun _ _ after => after)

end Removal

section Patches

variable {c : LagContext} {modified : BootcNode}

theorem lag_patchBootcNode
    {post : Unit → PassState → Prop} (steady : Steady pre)
    (stopped : Stops pre exc) (other : (Action.wrote call).handlesSlot = false)
    (slot : modified.annotations.known .inRebootSlot =
      bn.annotations.known .inRebootSlot)
    (cordon : modified.annotations.known .wasCordoned =
      bn.annotations.known .wasCordoned)
    (holds : ∀ s server, pre s → s.world.api.bootcNode name = some server →
      post () (s.patched call name (bn.merge modified server))) :
    (lagRegime c).Follows pre
      (Pass.patchBootcNode c.env call name bn modified) post exc :=
  follows_patchBootcNode_merged steady.ignoresIssued (fun _ => stopped)
    (fun e s routine before _ => stopped e s routine before)
    (fun _ server _ stored => .act (.patchBootcNode other stored
      (BootcNode.merge_ownerReferences bn modified server)
      (BootcNode.merge_slotRecord slot cordon server) rfl rfl)) holds

end Patches

/-! ## Synchronisation -/

/-- What holds in the loop over the matching Nodes: they are versions of the
stored ones, no Node is cordoned or uncordoned, and no BootcNode is
deleted. -/
structure Matching (c : LagContext) (matching : String → Option Node)
    (s : PassState) : Prop extends Lags c ∅ ∅ s where
  genuine : ∀ name node, matching name = some node → Genuine name node s
  cordons : ∀ name, s.world.unschedulable name = c.start.unschedulable name
  absent : ∀ name, s.world.api.bootcNode name = none →
    c.start.api.bootcNode name = none

section Sync

variable {c : LagContext} {s : PassState} {matching : String → Option Node}

theorem Matching.steady (c : LagContext) (matching : String → Option Node) :
    Steady (Matching c matching) := by
  intro s s' calm syncing
  refine ⟨Lags.steady c ∅ ∅ s s' calm syncing.toLags, ?_, ?_, ?_⟩
  · exact fun name node matched =>
      Genuine.steady node s s' calm (syncing.genuine name node matched)
  · intro name
    simp only [World.unschedulable, calm.node]
    exact syncing.cordons name
  · rw [calm.bootcNode]
    exact syncing.absent

theorem Matching.putNode
    (syncing : Matching c matching s) {modified : Node}
    (stored : s.world.api.node name = some node)
    (kept : modified.unschedulable = node.unschedulable) (action : Action) :
    Matching c matching (s.perform action
      (s.world.putNode name (node.store modified))) := by
  refine ⟨syncing.toLags.putNode stored _ (.inl kept) _, ?_, ?_,
    syncing.absent⟩
  · intro other read matched server found
    change (s.world.putNode name (node.store modified)).api.node other = _
      at found
    rw [World.putNode_node] at found
    split_ifs at found with same
    · cases found
      subst same
      exact (syncing.genuine other read matched node stored).store modified
    · exact syncing.genuine other read matched server found
  · intro other
    change (s.world.putNode name (node.store modified)).unschedulable other = _
    rw [unschedulable_putNode]
    split_ifs with same
    · subst same
      rw [← syncing.cordons other]
      simp [World.unschedulable, stored, Node.store, kept]
    · exact syncing.cordons other

theorem Matching.patched
    (syncing : Matching c matching s) {stored : BootcNode}
    (lags : Lags c ∅ ∅ (s.patched call name stored)) :
    Matching c matching (s.patched call name stored) := by
  refine ⟨lags, syncing.genuine, syncing.cordons, fun other gone => ?_⟩
  by_cases same : other = name
  · simp [PassState.patched, PassState.setOwned, PassState.perform,
      World.putBootcNode, same] at gone
  · refine syncing.absent other ?_
    simpa [PassState.patched, PassState.setOwned, PassState.perform,
      World.putBootcNode, same] using gone

/-- A created BootcNode is remembered as it was created. -/
theorem Matching.created
    (syncing : Matching c matching s)
    (reached : name ∈ c.env.order .classification)
    (absent : s.world.api.bootcNode name = none)
    (controlled : bn.isControlledBy c.pool = true) :
    Matching c matching (s.patched call name bn) := by
  have others : ∀ {other : String}, other ≠ name →
      (s.patched call name bn).world.api.bootcNode other =
        s.world.api.bootcNode other := by
    intro other different
    simp [PassState.patched, PassState.setOwned, PassState.perform,
      World.putBootcNode, different]
  refine syncing.patched ?_
  constructor
  · exact syncing.uid
  · exact syncing.spec
  · intro other present
    by_cases same : other = name
    · exact same ▸ reached
    · rw [s.patched_owned_of_ne _ _ same] at present
      exact syncing.reached other present
  · intro other bn' stays owned
    by_cases same : other = name
    · subst same
      rw [s.patched_owned_self, Option.some.injEq] at owned
      subst owned
      refine ⟨bn, ?_, controlled, .refl _ _⟩
      simp [PassState.patched, PassState.setOwned, PassState.perform,
        World.putBootcNode]
    · rw [s.patched_owned_of_ne _ _ same] at owned
      exact (syncing.known other bn' stays owned).congr (others same)
  · intro other stays slotted
    by_cases same : other = name
    · simp [same]
    · rw [s.patched_owned_of_ne _ _ same]
      exact syncing.slots other stays
        ((mem_slottedNodes_putBootcNode_of_ne same).mp slotted)
  · exact syncing.versions
  · intro other bn' stays owned free' notDone
    by_cases same : other = name
    · subst same
      refine ⟨fun old stored => ?_, syncing.cordons other⟩
      rw [syncing.absent other absent] at stored
      cases stored
    · rw [s.patched_owned_of_ne _ _ same] at owned
      exact (syncing.untouched other bn' stays owned free' notDone).congr rfl

theorem newBootcNode_controlled
    (r : BootcNodePoolReconciler) {pool : BootcNodePool} (node : Node)
    (uid : pool.uid = c.pool.uid) :
    (r.newBootcNode pool node).isControlledBy c.pool = true := by
  rw [isControlledBy_of_uid uid.symm]
  exact newBootcNode_isControlledBy r pool node

/-- A BootcNode is created, or one of that name exists and nothing
changes. -/
theorem lag_createBootcNode (reached : name ∈ c.env.order .classification) :
    (lagRegime c).Follows
      (fun s => (Matching c matching s ∧ Genuine name node s) ∧ s.owned name = none)
      (c.reconciler.createBootcNode c.env name node)
      (fun bn s => Matching c matching (s.setOwned name (some bn)))
      (fun e s => e.kind = .alreadyExists → Matching c matching s) := by
  have stopped : Tolerant fun e s =>
      e.kind = .alreadyExists → Matching c matching s := by
    intro e s routine exists_
    rw [ApiError.Routine, exists_] at routine
    simp at routine
  refine .bindReadOf (·.uid = c.pool.uid)
    (fun s before => before.1.1.uid) fun pool uid => ?_
  refine .bindVia
    (fun _ s => Matching c matching
      (s.setOwned name (some (c.reconciler.newBootcNode pool node))) ∧
        Genuine name node s) (.mapError ?_) fun _ => ?_
  · refine follows_createBootcNode ?_ (stopped.wrap _).stops ?_ ?_ ?_
    · exact fun s calls before =>
        ⟨⟨⟨Matching.steady c matching s _ (calm_issued s calls) before.1.1.1,
          before.1.1.2⟩, before.1.2⟩, before.2⟩
    · exact fun e s _ before _ _ => before.1.1.1
    · exact fun s before absent =>
        .act (.createBootcNode absent (newBootcNode_inRebootSlot _ _ _))
    · exact fun s before absent =>
        ⟨before.1.1.1.created reached absent
          (newBootcNode_controlled _ _ uid),
          before.1.1.2⟩
  · refine .bind (.mapError (lag_ensureManagedLabel (stopped.wrap _)
      (fun s s' calm before => Matching.steady c matching _ _ ?_ before)
      (fun s node modified action before stored kept =>
        before.putNode stored kept action) rfl)) fun _ => ?_
    · refine ⟨⟨⟨calm.uid, calm.spec, ?_, calm.bootcNode⟩, calm.upToDate,
        calm.staged, calm.occupiedSlots, calm.maxUnavail⟩, calm.node⟩
      simp only [PassState.setOwned, calm.owned]
    · exact .ret fun _ after => after.1

theorem lag_syncMatchingNode
    {all : String → Option BootcNode}
    (reached : name ∈ c.env.order .classification) :
    (lagRegime c).Follows (fun s => Matching c matching s ∧ Genuine name node s)
      (c.reconciler.syncMatchingNode c.env all name node)
      (fun _ s => Matching c matching s) AnyError := by
  refine .bindRead fun found => ?_
  cases found with
  | none =>
      refine .bind (.attempt (lag_createBootcNode reached)) fun result => ?_
      cases result with
      | ok bn =>
          exact .bind (.update (fun _ _ => rfl) fun _ after => after)
            fun _ => .ret fun _ after => after
      | error err =>
          refine .ite (fun _ => .fail fun _ _ => trivial) fun exists_ =>
            .ret fun s before => before (not_not.mp exists_)
  | some bn =>
      have steady : Steady fun s => Matching c matching s ∧ s.owned name = some bn :=
        (Matching.steady c matching).and (.owned _)
      refine .bind (.mapError (.conseq (lag_ensureManagedLabel
          AnyError.tolerant steady (fun s node modified action before stored
            kept => ⟨before.1.putNode stored kept action, before.2⟩) rfl)
        (fun s before => ⟨⟨before.1.1, before.2⟩, before.1.2⟩)
        (fun _ s after => after.1) fun _ _ after => after)) fun _ => ?_
      have patch (modified : BootcNode)
          (same : modified.annotations = bn.annotations) :
          (lagRegime c).Follows
            (fun s => Matching c matching s ∧ s.owned name = some bn)
            (Pass.patchBootcNode c.env (.syncSpec name) name bn modified)
            (fun _ => Matching c matching) AnyError :=
        lag_patchBootcNode steady (fun _ _ _ _ => trivial) rfl
          (by rw [same]) (by rw [same]) fun s server before stored =>
            before.1.patched (before.1.toLags.merged before.2 stored
              (by rw [same]) (by rw [same]) _)
      refine .bindVia (fun _ => Matching c matching) (.mapError ?_) fun _ =>
        .ret fun _ after => after
      refine .bindRead fun pool => .ite (fun _ => .mapError ?_) fun _ =>
        .ret fun _ before => before.1.1
      exact .conseq (patch _ rfl) (fun _ before => before.1)
        (fun _ _ after => after) fun _ _ after => after

end Sync

/-- The pass has read its pool and nothing else. -/
structure Begins (c : LagContext) (s : PassState) : Prop where
  world : s.world = c.start
  uid : s.pool.uid = c.pool.uid
  spec : s.pool.spec = c.pool.spec
  owned : ∀ name, s.owned name = none

section Lists

variable {c : LagContext} {s : PassState}

theorem exists_of_listed
    (shows : c.ShowsSlots) (listed : c.listed name = some bn) :
    ∃ server, c.start.api.bootcNode name = some server ∧
      server.ownerReferences = bn.ownerReferences ∧ c.SameSlot server bn := by
  have same := shows name
  rw [listed, Option.map_some] at same
  obtain ⟨server, stored, agrees⟩ := Option.map_eq_some_iff.mp same.symm
  refine ⟨server, stored, congrArg Prod.fst agrees, congrArg Prod.snd agrees,
    fun records => ?_⟩
  have cordon := records name
  rw [listed, stored, Option.map_some, Option.map_some,
    Option.some.injEq] at cordon
  exact cordon.symm

theorem exists_listed
    (shows : c.ShowsSlots) {server : BootcNode}
    (stored : c.start.api.bootcNode name = some server) :
    ∃ bn, c.listed name = some bn ∧
      bn.ownerReferences = server.ownerReferences := by
  have same := shows name
  rw [stored, Option.map_some] at same
  obtain ⟨bn, listed, agrees⟩ := Option.map_eq_some_iff.mp same
  exact ⟨bn, listed, congrArg Prod.fst agrees⟩

/-- The memory of the pass once it has listed the BootcNodes. -/
theorem Begins.matching
    (begins : Begins c s) (shows : c.ShowsSlots) (visits : c.Visits)
    (versions : c.Versions c.start) {matching : String → Option Node}
    (genuine : ∀ name node, matching name = some node → Genuine name node s) :
    Matching c matching
      { s with
        owned := fun name =>
          (c.listed name).filter (·.isControlledBy s.pool) } where
  uid := begins.uid
  spec := begins.spec
  reached name present := by
    refine visits name (.inl fun absent => ?_)
    simp [absent] at present
  known name bn _ owned := by
    obtain ⟨listed, controlled⟩ := Option.filter_eq_some_iff.mp owned
    obtain ⟨server, stored, owners, record⟩ := exists_of_listed shows listed
    refine ⟨server, begins.world ▸ stored, ?_, record⟩
    rwa [isControlledBy_congr owners, isControlledBy_of_uid begins.uid.symm]
  slots name _ slotted := by
    obtain ⟨server, stored, controlled, _⟩ := slotted
    rw [begins.world] at stored
    obtain ⟨bn, listed, owners⟩ := exists_listed shows stored
    rw [isControlledBy_of_uid begins.uid.symm,
      ← isControlledBy_congr owners] at controlled
    simp [listed, controlled]
  versions := begins.world ▸ versions
  untouched name bn _ owned free _ := by
    obtain ⟨listed, _⟩ := Option.filter_eq_some_iff.mp owned
    obtain ⟨server, stored, _, record⟩ := exists_of_listed shows listed
    refine ⟨fun old isOld => ?_, by rw [begins.world]⟩
    have same := stored.symm.trans isOld
    cases same
    exact record.slot.trans free
  genuine := genuine
  cordons name := by rw [begins.world]
  absent name gone := begins.world ▸ gone

theorem lag_listMatchingNodes (serves : c.ServesNodes)
    (versions : c.Versions c.start) :
    (lagRegime c).Follows (Begins c) (c.reconciler.listMatchingNodes c.env)
      (fun matching s => Begins c s ∧ ∀ name node,
        matching name = some node → Genuine name node s ∧
          (c.env.view .listNodes c.start.api).node name ≠ none)
      AnyError := by
  refine .bindRead fun pool => ?_
  split
  · exact .fail fun _ _ => trivial
  · next selector _ =>
      refine .mapError (.conseq (follows_query_view fun _ _ _ _ _ => trivial)
        (fun _ before => before.1) (fun matching s after => ⟨after.1, ?_⟩)
        fun _ _ after => after)
      intro name node matched
      rw [after.2] at matched
      have shown := (Option.filter_eq_some_iff.mp matched).1
      have versionsHere : c.Versions s.world := after.1.world ▸ versions
      refine ⟨Lags.genuine versionsHere serves (by simp) shown, ?_⟩
      rw [← after.1.world, shown]
      simp

theorem lag_listAllBootcNodes (begins : ∀ s, pre s → s.world = c.start) :
    (lagRegime c).Follows pre (listAllBootcNodes c.env)
      (fun all s => pre s ∧ all = c.listed) AnyError := by
  refine .mapError (.conseq (follows_query_view fun _ _ _ _ _ => trivial)
    (fun _ before => before) (fun all s after => ⟨after.1, ?_⟩)
    fun _ _ after => after)
  rw [after.2, begins s after.1]
  rfl

theorem lag_syncMembership
    (serves : c.ServesNodes) (shows : c.ShowsSlots) (visits : c.Visits)
    (versions : c.Versions c.start) :
    (lagRegime c).Follows (Begins c) (c.reconciler.syncMembership c.env)
      (fun _ s => Lags c ∅ ∅ s) AnyError := by
  refine .bind (.mapError (lag_listMatchingNodes serves versions))
    fun matching => ?_
  refine .bind (.mapError (lag_listAllBootcNodes fun s before =>
    before.1.world)) fun all => ?_
  refine .know (∀ name node, matching name = some node →
      name ∈ c.env.order .classification)
    (fun s before name node matched =>
      visits name (.inr (before.1.2 name node matched).2)) fun reached => ?_
  refine .bindVia (fun _ => Matching c matching)
    (.update (fun _ _ => rfl) fun s before => ?_) fun _ => ?_
  · rw [before.2]
    exact before.1.1.matching shows visits versions fun name node matched =>
      (before.1.2 name node matched).1
  refine .bind (.gather (fun _ _ => Matching c matching) ?_)
    fun conflicting => ?_
  · intro done name rest gathered split
    cases matched : matching name with
    | none => exact .ret fun _ before => before
    | some node =>
        exact .conseq (lag_syncMatchingNode (reached name node matched))
          (fun s before => ⟨before, before.genuine name node matched⟩)
          (fun _ _ after => after) fun _ _ after => after
  · refine .bind (.conseq (.forEach_keeps fun name _ =>
        lag_removeDeparted serves)
      (fun s before => before.toLags) (fun _ _ after => after)
      fun _ _ after => after) fun _ => ?_
    refine .ite (fun _ => ?_) fun _ => .ret fun _ before => before
    refine .update (fun _ _ => rfl) fun s lags =>
      Lags.steady c ∅ ∅ s _ ?_ lags
    have same := (BootcNodePool.SameTarget.refl s.pool).setPoolDegraded
      c.env.now poolNodeConflict (conflictMessage conflicting)
    exact calm_pool s same.uid same.spec

/-- The pool is being deleted; every BootcNode may be. -/
structure Clearing (c : LagContext) (s : PassState) : Prop
    extends Lags c Set.univ ∅ s where
  held : ∀ name bn, c.listed name = some bn → Held c name bn s

theorem Begins.clearing
    (begins : Begins c s) (shows : c.ShowsSlots)
    (versions : c.Versions c.start) : Clearing c s where
  uid := begins.uid
  spec := begins.spec
  reached name present := absurd (begins.owned name) present
  known _ _ stays := absurd (Set.mem_univ _) stays
  slots _ stays := absurd (Set.mem_univ _) stays
  versions := begins.world ▸ versions
  untouched _ _ stays := absurd (Set.mem_univ _) stays
  held name bn listed server stored := by
    obtain ⟨found, isFound, _, record⟩ := exists_of_listed shows listed
    rw [begins.world] at stored
    have same := stored.symm.trans isFound
    cases same
    exact record

theorem Clearing.deleted
    (clearing : Clearing c s) (name : String) (action : Action) :
    Clearing c (s.perform action (s.world.putBootcNode name none)) where
  uid := clearing.uid
  spec := clearing.spec
  reached := clearing.reached
  known _ _ stays := absurd (Set.mem_univ _) stays
  slots _ stays := absurd (Set.mem_univ _) stays
  versions := clearing.versions
  untouched _ _ stays := absurd (Set.mem_univ _) stays
  held other bn listed := Held.deleted (clearing.held other bn listed) action

theorem lag_removeForDeletion {pool : BootcNodePool} (serves : c.ServesNodes) :
    (lagRegime c).Follows (Clearing c)
      (removeForDeletion c.env pool c.listed name)
      (fun _ s => Clearing c s) AnyError := by
  unfold removeForDeletion
  cases listed : c.listed name with
  | none => exact .ret fun _ before => before
  | some bn =>
      refine .ite (fun _ => .mapError ?_) fun _ => .ret fun _ before => before
      have recorded : Recorded fun s =>
          ∀ name bn, c.listed name = some bn → Held c name bn s :=
        fun s s' records held other bn' isListed =>
          Held.recorded c other bn' s s' records (held other bn' isListed)
      have removed : (lagRegime c).Follows
          (fun s => Lags c Set.univ ∅ s ∧
            ∀ name bn, c.listed name = some bn → Held c name bn s)
          (removeBootcNode c.env name bn) (fun _ => Clearing c) AnyError :=
        lag_removeBootcNode serves recorded (Set.mem_univ name)
          (fun s held => held name bn listed) fun s before =>
            Clearing.deleted ⟨before.1, before.2⟩ name _
      exact .conseq removed (fun s before => ⟨before.toLags, before.held⟩)
        (fun _ _ after => after) fun _ _ after => after

theorem lag_handlePoolDeletion
    {request : String} (serves : c.ServesNodes) (shows : c.ShowsSlots)
    (versions : c.Versions c.start) :
    (lagRegime c).Follows (Begins c) (handlePoolDeletion c.env request)
      (fun _ _ => True) AnyError := by
  refine .bindRead fun pool => .ite (fun _ => .ret fun _ _ => trivial)
    fun _ => ?_
  refine .bind (.mapError (lag_listAllBootcNodes fun s before =>
    before.1.world)) fun all => ?_
  refine .know (all = c.listed) (fun s before => before.2) fun isAll => ?_
  subst isAll
  refine .bind (.conseq (.forEach_keeps fun name _ =>
      lag_removeForDeletion serves)
    (fun s before => before.1.1.clearing shows versions)
    (fun _ _ after => after) fun _ _ after => after) fun _ => ?_
  refine .bindVia (fun _ _ => True) (.update (fun _ _ => rfl)
    fun _ _ => trivial) fun _ => ?_
  refine .bindVia (fun _ _ => True) (Aside.follows
    (aside_updatePool request _).attempt (fun _ _ _ _ => trivial)
    fun _ _ _ => trivial) fun result => ?_
  cases result with
  | ok _ => exact .ret fun _ _ => trivial
  | error err =>
      exact .ite (fun _ => .ret fun _ _ => trivial) fun _ =>
        .fail fun _ _ => trivial

end Lists

end BootcNodePoolReconciler

end BootcOperator
