import BootcOperator.Lag.Effect

/-!
# What a pass with lagging reads knows

Most requests of a pass leave the BootcNodes, the Nodes and its memory of them
alone; they are `Aside`.  `Lags` is what the memory of the pass has to do with
the API server in spite of the lag: the owners and slots agree, and a Node
whose BootcNode holds no slot has not been cordoned or uncordoned by the pass.
-/

namespace BootcOperator

open Program

variable {s : PassState} {pre : PassState → Prop} {pool : BootcNodePool}

/-! ## Requests about other objects -/

/-- Neither the BootcNodes nor the pass's copies change. -/
structure SameMemory (s s' : PassState) : Prop where
  uid : s'.pool.uid = s.pool.uid
  spec : s'.pool.spec = s.pool.spec
  owned : s'.owned = s.owned
  bootcNode : s'.world.api.bootcNode = s.world.api.bootcNode

structure SameRecords (s s' : PassState) : Prop extends SameMemory s s' where
  upToDate : s'.rs.upToDate = s.rs.upToDate
  staged : s'.rs.staged = s.rs.staged
  occupiedSlots : s'.rs.occupiedSlots = s.rs.occupiedSlots
  maxUnavail : s'.maxUnavail = s.maxUnavail

/-- The Nodes do not change either. -/
structure Calm (s s' : PassState) : Prop extends SameRecords s s' where
  node : s'.world.api.node = s.world.api.node

theorem Calm.refl (s : PassState) : Calm s s :=
  ⟨⟨⟨rfl, rfl, rfl, rfl⟩, rfl, rfl, rfl, rfl⟩, rfl⟩

theorem SameRecords.trans
    {mid s' : PassState} (first : SameRecords s mid)
    (second : SameRecords mid s') : SameRecords s s' :=
  ⟨⟨second.uid.trans first.uid, second.spec.trans first.spec,
    second.owned.trans first.owned, second.bootcNode.trans first.bootcNode⟩,
    second.upToDate.trans first.upToDate, second.staged.trans first.staged,
    second.occupiedSlots.trans first.occupiedSlots,
    second.maxUnavail.trans first.maxUnavail⟩

/-- The states agree, and the steps in between are those of a pass with lagging
reads. -/
structure Calmly (c : LagContext) (s s' : PassState) : Prop
    extends Calm s s' where
  chain : Relation.ReflTransGen (LagStep c) s.seen s'.seen

instance (c : LagContext) : IsPreorder PassState (Calmly c) where
  refl := fun s => ⟨.refl s, .refl⟩
  trans := fun _ _ _ first second =>
    ⟨⟨first.toSameRecords.trans second.toSameRecords,
      second.node.trans first.node⟩, first.chain.trans second.chain⟩

/-- A part of a pass that is about other objects. -/
def Aside {α : Type} (c : LagContext) (m : Pass α) : Prop :=
  Moves (Calmly c) m

/-- A fact about the BootcNodes, the Nodes and the memory of them. -/
def Steady (pre : PassState → Prop) : Prop :=
  ∀ s s', Calm s s' → pre s → pre s'

theorem Aside.follows
    {α : Type} {c : LagContext} {m : Pass α}
    {exc : ApiError → PassState → Prop} (aside : Aside c m)
    (steady : Steady pre) (stopped : ∀ e s, pre s → exc e s) :
    (lagRegime c).Follows pre m (fun _ => pre) exc := by
  intro s before
  have moved := aside s
  have after := steady s _ moved.toCalm before
  refine ⟨moved.chain, ?_⟩
  cases (m s).1 with
  | error e => exact stopped e _ after
  | ok value => exact after

section Requests

variable {c : LagContext} {env : Env} {α : Type}

variable (call : Call)

theorem Calmly.silent
    {s' : PassState} (calm : Calm s s') (seen : s'.seen = s.seen) :
    Calmly c s s' := by
  refine ⟨calm, ?_⟩
  rw [seen]

/-- An action that is neither about BootcNodes nor about Nodes. -/
theorem Calmly.perform
    {action : Action} {w : World} (other : action.handlesSlot = false)
    (bootcNode : w.api.bootcNode = s.world.api.bootcNode)
    (node : w.api.node = s.world.api.node) :
    Calmly c s (s.perform action w) :=
  ⟨⟨⟨⟨rfl, rfl, rfl, bootcNode⟩, rfl, rfl, rfl, rfl⟩, node⟩,
    .single (.act (.aside other bootcNode node))⟩

theorem aside_note {action : Action} (other : action.handlesSlot = false) :
    Aside c (Pass.note action) :=
  Moves.update fun _ => .perform other rfl rfl

theorem aside_send : Aside c (Pass.send env call) := by
  unfold Pass.send
  split
  · exact Moves.ret ()
  · exact Moves.fail _

theorem calm_issued (s : PassState) (calls : List Call) :
    Calm s { s with issued := calls } :=
  ⟨⟨⟨rfl, rfl, rfl, rfl⟩, rfl, rfl, rfl, rfl⟩, rfl⟩

theorem Steady.ignoresIssued (steady : Steady pre) : IgnoresIssued pre :=
  fun s calls before => steady s _ (calm_issued s calls) before

theorem calm_pool
    (s : PassState) (uid : pool.uid = s.pool.uid)
    (spec : pool.spec = s.pool.spec) : Calm s { s with pool := pool } :=
  ⟨⟨⟨uid, spec, rfl, rfl⟩, rfl, rfl, rfl, rfl⟩, rfl⟩

theorem aside_sendWrite :
    Aside c (Pass.sendWrite env call) :=
  Moves.bind (Moves.update fun s => .silent (calm_issued s _) rfl) fun _ =>
    aside_send call

theorem aside_query (look : Cluster → α) :
    Aside c (Pass.query env call look) :=
  Moves.bind (aside_send call) fun _ => Moves.read _

theorem aside_get (look : Cluster → Option α) (resource name : String) :
    Aside c (Pass.get env call look resource name) := by
  refine Moves.bind (aside_query call look) fun found => ?_
  cases found with
  | none => exact Moves.fail _
  | some value => exact Moves.ret value

theorem aside_patchNodeClaim
    {call : Call} (other : (Action.wrote call).handlesSlot = false)
    (name : String) (claim modified : NodeClaim) :
    Aside c (Pass.patchNodeClaim env call name claim modified) := by
  refine Moves.bind (aside_sendWrite call) fun _ => ?_
  refine Moves.bind (Moves.read _) fun found => ?_
  cases found with
  | none => exact Moves.fail _
  | some server => exact Moves.update fun _ => .perform other rfl rfl

theorem aside_updatePool (name : String) (pool : BootcNodePool) :
    Aside c (Pass.updatePool env name pool) := by
  refine Moves.bind (aside_sendWrite _) fun _ => ?_
  refine Moves.bind (Moves.read _) fun found => ?_
  cases found with
  | none => exact Moves.fail _
  | some server => exact Moves.update fun _ => .perform rfl rfl rfl

theorem aside_updatePoolStatus (name : String) (pool : BootcNodePool) :
    Aside c (Pass.updatePoolStatus env name pool) := by
  refine Moves.bind (aside_sendWrite _) fun _ => ?_
  refine Moves.bind (Moves.read _) fun found => ?_
  cases found with
  | none => exact Moves.fail _
  | some server => exact Moves.update fun _ => .perform rfl rfl rfl

theorem aside_getKarpenterNodeClaim (node : Node) :
    Aside c (getKarpenterNodeClaim env call node) :=
  Moves.ite (aside_query call _) (Moves.ret _)

theorem aside_isKarpenterDisruptionActive (node : Node) :
    Aside c (isKarpenterDisruptionActive env call node) := by
  refine Moves.ite (Moves.ret _) (Moves.ite (Moves.ret _) ?_)
  exact Moves.bind (aside_getKarpenterNodeClaim call node) fun _ =>
    Moves.ofExcept _

end Requests

/-! ## The memory of the pass -/

/-- The BootcNode in memory has the owner and the slot of the one in the API
server. -/
def Holds (c : LagContext) (w : World) (name : String) (bn : BootcNode) :
    Prop :=
  ∃ server, w.api.bootcNode name = some server ∧
    server.isControlledBy c.pool = true ∧ c.SameSlot server bn

/-- The node had no slot when the pass started, and its cordon is as it was
then. -/
structure Untouched (c : LagContext) (w : World) (name : String) : Prop where
  unslotted : ∀ bn, c.start.api.bootcNode name = some bn →
    bn.inRebootSlot = false
  unschedulable : w.unschedulable name = c.start.unschedulable name

/-- What holds of the nodes that the pass is not about to remove; those whose
slot it may free are `freed`. -/
structure Lags (c : LagContext) (leaving freed : Set String)
    (s : PassState) : Prop where
  uid : s.pool.uid = c.pool.uid
  spec : s.pool.spec = c.pool.spec
  reached : ∀ name, s.owned name ≠ none → name ∈ c.env.order .classification
  known : ∀ name bn, name ∉ leaving → s.owned name = some bn →
    Holds c s.world name bn
  slots : ∀ name, name ∉ leaving → name ∈ slottedNodes c.pool s.world.api →
    s.owned name ≠ none
  versions : c.Versions s.world
  untouched : ∀ name bn, name ∉ leaving → s.owned name = some bn →
    bn.inRebootSlot = false → name ∉ freed →
    Untouched c s.world name

/-- The Node that was read is the stored one or an older version. -/
def Genuine (name : String) (node : Node) (s : PassState) : Prop :=
  ∀ server, s.world.api.node name = some server → node.IsVersionOf server

section Facts

variable {c : LagContext} {leaving freed : Set String} {s' : PassState}
  {name : String}

variable {bn : BootcNode} {w : World} {node : Node}

theorem slottedNodes_congr
    {api api' : Cluster} (same : api'.bootcNode = api.bootcNode) :
    slottedNodes pool api' = slottedNodes pool api := by
  simp only [slottedNodes, same]

theorem isControlledBy_congr
    {bn' : BootcNode} (owners : bn'.ownerReferences = bn.ownerReferences)
    (pool : BootcNodePool) :
    bn'.isControlledBy pool = bn.isControlledBy pool := by
  simp only [BootcNode.isControlledBy, BootcNode.controllerOf, owners]

theorem isControlledBy_of_uid
    {pool' : BootcNodePool} (uid : pool'.uid = pool.uid) (bn : BootcNode) :
    bn.isControlledBy pool' = bn.isControlledBy pool := by
  simp only [BootcNode.isControlledBy, uid]

theorem Holds.congr
    {w' : World} (holds : Holds c w name bn)
    (same : w'.api.bootcNode name = w.api.bootcNode name) :
    Holds c w' name bn := by
  obtain ⟨server, stored, rest⟩ := holds
  exact ⟨server, same.trans stored, rest⟩

theorem Holds.inRebootSlot (holds : Holds c w name bn) :
    name ∈ slottedNodes c.pool w.api ↔ bn.inRebootSlot = true := by
  obtain ⟨server, stored, controlled, same⟩ := holds
  simp [mem_slottedNodes, stored, controlled, same.slot]

theorem Untouched.congr
    {w' : World} (untouched : Untouched c w name)
    (same : w'.unschedulable name = w.unschedulable name) :
    Untouched c w' name :=
  ⟨untouched.unslotted, same.trans untouched.unschedulable⟩

theorem Genuine.steady (node : Node) : Steady (Genuine name node) :=
  fun _ _ calm genuine server stored =>
    genuine server (calm.node ▸ stored)

/-- The memory stays right while the Nodes change in what it does not speak
about. -/
theorem Lags.of_sameMemory
    (lags : Lags c leaving freed s) (records : SameMemory s s')
    (versions : c.Versions s'.world)
    (unschedulable : ∀ name bn, name ∉ leaving → s.owned name = some bn →
      bn.inRebootSlot = false → name ∉ freed →
      s'.world.unschedulable name = s.world.unschedulable name) :
    Lags c leaving freed s' where
  uid := records.uid.trans lags.uid
  spec := records.spec.trans lags.spec
  reached := records.owned ▸ lags.reached
  known other bn stays owned := by
    rw [records.owned] at owned
    exact (lags.known other bn stays owned).congr
      (congrFun records.bootcNode other)
  slots other stays slotted := by
    rw [slottedNodes_congr records.bootcNode] at slotted
    rw [records.owned]
    exact lags.slots other stays slotted
  versions := versions
  untouched other bn stays owned free notDone := by
    rw [records.owned] at owned
    exact (lags.untouched other bn stays owned free notDone).congr
      (unschedulable other bn stays owned free notDone)

theorem Lags.setRs
    (lags : Lags c leaving freed s) (rs : RolloutState) :
    Lags c leaving freed { s with rs := rs } :=
  lags.of_sameMemory ⟨rfl, rfl, rfl, rfl⟩ lags.versions
    fun _ _ _ _ _ _ => rfl

theorem Lags.steady (c : LagContext) (leaving freed : Set String) :
    Steady (Lags c leaving freed) := by
  intro s s' calm lags
  refine lags.of_sameMemory calm.toSameMemory ?_ ?_
  · unfold LagContext.Versions
    rw [calm.node]
    exact lags.versions
  · intro name bn _ _ _ _
    simp only [World.unschedulable, calm.node]

theorem Steady.and
    {pre' : PassState → Prop} (steady : Steady pre) (steady' : Steady pre') :
    Steady fun s => pre s ∧ pre' s :=
  fun s s' calm before =>
    ⟨steady s s' calm before.1, steady' s s' calm before.2⟩

theorem Steady.owned (bn : Option BootcNode) :
    Steady fun s => s.owned name = bn :=
  fun _ _ calm owned => (congrFun calm.owned name).trans owned

theorem Lags.genuine
    (versions : c.Versions s.world) (serves : c.ServesNodes) {call : Call}
    (matters : ∀ drained, call ≠ .getDraining drained)
    (shown : (c.env.view call s.world.api).node name = some node) :
    Genuine name node s := by
  intro server stored
  rcases serves call s.world.api name matters with current | ⟨snapshot, old, same⟩
  · have isServer := (current.symm.trans shown).symm.trans stored
    cases isServer
    exact .refl node
  · exact versions snapshot old name node server (same.symm.trans shown)
      stored

theorem Genuine.locked
    {server : Node} (genuine : Genuine name node s)
    (stored : s.world.api.node name = some server)
    (unlocked : server.resourceVersion = node.resourceVersion) :
    server = node :=
  ((genuine server stored).isServer unlocked.symm).symm

theorem versions_putNode
    (versions : c.Versions w) (stored : w.api.node name = some node)
    (modified : Node) :
    c.Versions (w.putNode name (node.store modified)) := by
  intro snapshot old other node' server shown found
  rw [w.putNode_node] at found
  split_ifs at found with same
  · cases found
    subst same
    exact (versions snapshot old other node' node shown stored).store
      modified
  · exact versions snapshot old other node' server shown found

theorem unschedulable_putNode
    (w : World) (other : String) (node : Node) :
    (w.putNode name node).unschedulable other =
      if other = name then some node.unschedulable
      else w.unschedulable other := by
  unfold World.unschedulable
  rw [w.putNode_node]
  split_ifs <;> rfl

theorem sameRecords_putNode
    (s : PassState) (action : Action) (node : Node) :
    SameRecords s (s.perform action (s.world.putNode name node)) :=
  ⟨⟨rfl, rfl, rfl, rfl⟩, rfl, rfl, rfl, rfl⟩

theorem Lags.putNode
    (lags : Lags c leaving freed s)
    (stored : s.world.api.node name = some node) (modified : Node)
    (harmless : modified.unschedulable = node.unschedulable ∨
      name ∈ leaving ∨ name ∈ freed ∨
        ∃ bn, s.owned name = some bn ∧ bn.inRebootSlot = true)
    (action : Action) :
    Lags c leaving freed (s.perform action
      (s.world.putNode name (node.store modified))) := by
  refine lags.of_sameMemory (sameRecords_putNode s action _).toSameMemory
    (versions_putNode lags.versions stored modified) ?_
  intro other bn stays owned free notDone
  change (s.world.putNode name (node.store modified)).unschedulable other = _
  rw [unschedulable_putNode]
  split_ifs with same
  · subst same
    rcases harmless with kept | leaves | done | ⟨bn', owned', slotted⟩
    · simp [World.unschedulable, stored, Node.store, kept]
    · exact (stays leaves).elim
    · exact (notDone done).elim
    · rw [owned, Option.some.injEq] at owned'
      subst owned'
      rw [free] at slotted
      cases slotted
  · rfl

theorem Lags.patched
    (lags : Lags c ∅ freed s) {server stored : BootcNode} {call : Call}
    (owned : s.owned name = some bn)
    (isServer : s.world.api.bootcNode name = some server)
    (owners : stored.ownerReferences = server.ownerReferences)
    (untouched : stored.inRebootSlot = false → name ∉ freed →
      bn.inRebootSlot = false) :
    Lags c ∅ freed (s.patched call name stored) where
  uid := lags.uid
  spec := lags.spec
  reached other present := by
    by_cases same : other = name
    · exact lags.reached other (by simp [same, owned])
    · rw [s.patched_owned_of_ne _ _ same] at present
      exact lags.reached other present
  known other bn' stays owned' := by
    by_cases same : other = name
    · subst same
      rw [s.patched_owned_self, Option.some.injEq] at owned'
      subst owned'
      obtain ⟨found, isFound, controlled, _⟩ :=
        lags.known other bn stays owned
      have sameServer := isServer.symm.trans isFound
      cases sameServer
      refine ⟨stored, ?_, ?_, .refl _ _⟩
      · simp [PassState.patched, PassState.setOwned, PassState.perform,
          World.putBootcNode]
      · rwa [isControlledBy_congr owners]
    · rw [s.patched_owned_of_ne _ _ same] at owned'
      refine (lags.known other bn' stays owned').congr ?_
      simp [PassState.patched, PassState.setOwned, PassState.perform,
        World.putBootcNode, same]
  slots other stays slotted := by
    by_cases same : other = name
    · subst same
      simp
    · rw [s.patched_owned_of_ne _ _ same]
      exact lags.slots other stays
        ((mem_slottedNodes_putBootcNode_of_ne same).mp slotted)
  versions := lags.versions
  untouched other bn' stays owned' free notDone := by
    by_cases same : other = name
    · subst same
      rw [s.patched_owned_self, Option.some.injEq] at owned'
      subst owned'
      exact (lags.untouched other bn stays owned (untouched free notDone)
        notDone).congr rfl
    · rw [s.patched_owned_of_ne _ _ same] at owned'
      exact (lags.untouched other bn' stays owned' free notDone).congr rfl

theorem Lags.removed
    (lags : Lags c {name} freed s) (action : Action) :
    Lags c ∅ freed
      ((s.perform action (s.world.putBootcNode name none)).setOwned name
        none) := by
  have isOther : ∀ {other bn},
      ((s.perform action (s.world.putBootcNode name none)).setOwned name
        none).owned other = some bn →
      other ≠ name ∧ s.owned other = some bn := by
    intro other bn owned
    by_cases same : other = name
    · simp [PassState.setOwned, same] at owned
    · refine ⟨same, ?_⟩
      simpa [PassState.setOwned, PassState.perform, same] using owned
  constructor
  · exact lags.uid
  · exact lags.spec
  · intro other present
    obtain ⟨bn, owned⟩ := Option.ne_none_iff_exists'.mp present
    exact lags.reached other (by simp [(isOther owned).2])
  · intro other bn _ owned
    obtain ⟨different, wasOwned⟩ := isOther owned
    refine (lags.known other bn different wasOwned).congr ?_
    simp [PassState.setOwned, PassState.perform, World.putBootcNode,
      different]
  · intro other _ slotted
    by_cases same : other = name
    · subst same
      have gone := s.world.putBootcNode_bootcNode other other none
      simp only [if_true] at gone
      obtain ⟨bn, stored, _⟩ := slotted
      change (s.world.putBootcNode other none).api.bootcNode other = _
        at stored
      rw [gone] at stored
      cases stored
    · have wasOwned := lags.slots other same
        ((mem_slottedNodes_putBootcNode_of_ne same).mp slotted)
      simpa [PassState.setOwned, PassState.perform, same] using wasOwned
  · exact lags.versions
  · intro other bn _ owned free notDone
    obtain ⟨different, wasOwned⟩ := isOther owned
    exact (lags.untouched other bn different wasOwned free notDone).congr rfl

end Facts

end BootcOperator
