import BootcOperator.Controller.Reconcile

/-!
# Work on one node stays with the node

Every loop of a pass works on one node at a time.  Whatever the body of such a
loop does, and however it ends, it is `Confined` to its node: what the pass
sees under other names stays, so does the state that all nodes share, and
every action is about the node and of a given kind.  Only NodeClaims are not
kept apart by the name of the node.
-/

namespace BootcOperator

open Program BootcNodePoolReconciler

variable {action : Action}

def anyAction : Action → Bool := fun _ => true

/-- The action retargets, creates and deletes no BootcNode. -/
def Action.keepsTargets : Action → Bool
  | .wrote (.syncSpec _) | .wrote (.createBootcNode _)
  | .wrote (.deleteBootcNode _) => false
  | _ => true

/-- The action frees no slot either. -/
def Action.keepsSlots : Action → Bool
  | .wrote (.freeSlot _) => false
  | action => action.keepsTargets

/-- The actions of a rollout before it assigns slots. -/
def Action.settles : Action → Bool
  | .wrote (.approve _) | .wrote (.restoreNode _) | .wrote (.restoreClaim _)
  | .wrote (.freeSlot _) | .wrote (.removeTaint _) | .wrote (.clearTaint _)
  | .collectDrain _ | .event _ => true
  | _ => false

/-- Part of announcing a transition of a node. -/
def Action.observes : Action → Bool
  | .wrote (.markObserved _) => true
  | .event recorded => recorded.action = eventActionNodeUpdate
  | _ => false

def Admits (admitted kind : Action → Bool) : Prop :=
  ∀ action, kind action = true → action.observes = false →
    admitted action = true

theorem Admits.self (kind : Action → Bool) : Admits kind kind :=
  fun _ isKind _ => isKind

theorem Admits.settles
    {admitted : Action → Bool} (admits : Admits admitted Action.keepsTargets) :
    Admits admitted Action.settles := by
  intro action settles unobserving
  refine admits action ?_ unobserving
  unfold Action.settles at settles
  split at settles <;> first | rfl | cases settles

/-- The node whose objects a request reads or writes. -/
def Call.nodeName : Call → Option String
  | .labelNode name | .syncSpec name | .createBootcNode name
  | .getDeparting name | .restoreNode name | .getRestoredClaim name
  | .restoreClaim name | .unlabelNode name | .deleteBootcNode name
  | .markObserved name | .approve name | .getCompleted name
  | .freeSlot name | .removeTaint name | .clearTaint name
  | .getCandidate name | .getCandidateClaim name | .getAssignedClaim name
  | .assignSlot name | .fenceClaim name | .cordonNode name
  | .getDraining name | .getDrainingClaim name => some name
  | .getPool | .updatePool | .updatePoolStatus | .getSecret | .listNodes
  | .listBootcNodes => none

/-- The node that an action is about. -/
def Action.nodeName : Action → Option String
  | .wrote call => call.nodeName
  | .cancelDrain name | .collectDrain name | .startDrain name
  | .stallDrain name => some name
  | .event recorded =>
      match recorded.regarding with
      | .bootcNode name => some name
      | .pool _ => none
  | .resolve _ _ => none

/-- An admitted action on this node. -/
def Allowed (admitted : Action → Bool) (name : String) (action : Action) :
    Prop :=
  action.nodeName = some name ∧ admitted action = true

theorem Admits.allowed
    {admitted kind : Action → Bool} (admits : Admits admitted kind)
    {name : String} (about : action.nodeName = some name)
    (isKind : kind action = true) (unobserving : action.observes = false) :
    Allowed admitted name action :=
  ⟨about, admits action isKind unobserving⟩

/-! ## The state by names -/

/-- What a pass sees under a name. -/
structure Look where
  bootcNode : Option BootcNode
  node : Option Node
  owned : Option BootcNode

def PassState.look (s : PassState) (name : String) : Look :=
  { bootcNode := s.world.api.bootcNode name
    node := s.world.api.node name
    owned := s.owned name }

/-- All that the world and the memory of a pass hold under a name. -/
structure Cell extends Look where
  drain : Option DrainStatus
  cordoned : Bool

def PassState.cell (s : PassState) (name : String) : Cell :=
  { toLook := s.look name
    drain := s.world.drains name
    cordoned := s.world.cordoned name }

/-- What a pass holds for all nodes together, its counters apart. -/
structure Shared where
  pool : BootcNodePool
  pools : String → Option BootcNodePool
  secret : String → String → Option Secret
  nodeClaimCRD : Bool
  buckets : RolloutState
  rolloutHalted : Bool
  maxUnavail : Option Int

/-- The buckets, without counter and delay. -/
def RolloutState.buckets (rs : RolloutState) : RolloutState :=
  { rs with occupiedSlots := 0, requeueAfter := 0 }

def PassState.shared (s : PassState) : Shared :=
  { pool := s.pool
    pools := s.world.api.pool
    secret := s.world.api.secret
    nodeClaimCRD := s.world.api.nodeClaimCRD
    buckets := s.rs.buckets
    rolloutHalted := s.rolloutHalted
    maxUnavail := s.maxUnavail }

/-- The second state differs from the first under one name only, and only
admitted actions have been performed. -/
structure Confined (admitted : Action → Bool) (name : String)
    (s s' : PassState) : Prop where
  shared : s'.shared = s.shared
  elsewhere : ∀ other, other ≠ name → s'.cell other = s.cell other
  log : ∃ done, s'.log = s.log ++ done ∧
    ∀ entry ∈ done, Allowed admitted name entry.action

instance (admitted : Action → Bool) (name : String) :
    IsPreorder PassState (Confined admitted name) where
  refl := fun s => ⟨rfl, fun _ _ => rfl, [], by simp, by simp⟩
  trans := fun _ _ _ first second => by
    obtain ⟨before, isBefore, allowedBefore⟩ := first.log
    obtain ⟨after, isAfter, allowedAfter⟩ := second.log
    refine ⟨second.shared.trans first.shared, fun other different =>
      (second.elsewhere other different).trans
        (first.elsewhere other different), before ++ after, ?_, ?_⟩
    · rw [isAfter, isBefore, List.append_assoc]
    · intro entry member
      rcases List.mem_append.mp member with earlier | later
      · exact allowedBefore entry earlier
      · exact allowedAfter entry later

namespace Confined

variable {admitted : Action → Bool} {name : String} {s s' : PassState}

theorem look (confined : Confined admitted name s s')
    {other : String} (different : other ≠ name) :
    s'.look other = s.look other :=
  congrArg Cell.toLook (confined.elsewhere other different)

theorem silent
    (shared : s'.shared = s.shared)
    (elsewhere : ∀ other, other ≠ name → s'.cell other = s.cell other)
    (log : s'.log = s.log) : Confined admitted name s s' :=
  ⟨shared, elsewhere, [], by simp [log], by simp⟩

theorem performed
    {entry : Entry} (shared : s'.shared = s.shared)
    (elsewhere : ∀ other, other ≠ name → s'.cell other = s.cell other)
    (log : s'.log = s.log ++ [entry])
    (allowed : Allowed admitted name entry.action) :
    Confined admitted name s s' :=
  ⟨shared, elsewhere, [entry], log, by simpa using allowed⟩

end Confined

section Requests

variable {admitted : Action → Bool} {name : String} {call : Call} {α : Type}
  (env : Env)

theorem confined_send :
    Moves (Confined admitted name) (Pass.send env call) := by
  unfold Pass.send
  split
  · exact Moves.ret ()
  · exact Moves.fail _

theorem confined_sendWrite :
    Moves (Confined admitted name) (Pass.sendWrite env call) :=
  Moves.bind (Moves.update fun _ => .silent rfl (fun _ _ => rfl) rfl)
    fun _ => confined_send env

theorem confined_query (look : Cluster → α) :
    Moves (Confined admitted name) (Pass.query env call look) :=
  Moves.bind (confined_send env) fun _ => Moves.read _

theorem confined_getNode (found : String) :
    Moves (Confined admitted name) (Pass.getNode env call found) := by
  refine Moves.bind (confined_query env _) fun node => ?_
  cases node with
  | none => exact Moves.fail _
  | some node => exact Moves.ret node

theorem confined_note (allowed : Allowed admitted name action) :
    Moves (Confined admitted name) (Pass.note action) :=
  Moves.update fun _ => .performed rfl (fun _ _ => rfl) rfl allowed

theorem confined_patchBootcNode
    (allowed : Allowed admitted name (.wrote call)) (base modified : BootcNode) :
    Moves (Confined admitted name)
      (Pass.patchBootcNode env call name base modified) := by
  refine Moves.bind (confined_sendWrite env) fun _ => ?_
  refine Moves.bind (Moves.read _) fun found => ?_
  cases found with
  | none => exact Moves.fail _
  | some server =>
      refine Moves.update fun s => .performed rfl ?_ rfl allowed
      intro other different
      simp [PassState.cell, PassState.look, PassState.perform,
        PassState.setOwned, World.putBootcNode, different]

theorem confined_patchNode
    (allowed : Allowed admitted name (.wrote call)) (node modified : Node) :
    Moves (Confined admitted name) (Pass.patchNode env call name node modified) := by
  refine Moves.bind (confined_sendWrite env) fun _ => ?_
  refine Moves.bind (Moves.read _) fun found => ?_
  cases found with
  | none => exact Moves.fail _
  | some server =>
      refine Moves.ite (Moves.fail _) ?_
      refine Moves.bind (Moves.update fun s =>
        .performed rfl (fun other different => ?_) rfl allowed) fun _ =>
          Moves.ret _
      simp [PassState.cell, PassState.look, PassState.perform,
        World.putNode, different]

theorem confined_patchNodeClaim
    (allowed : Allowed admitted name (.wrote call)) (claimName : String)
    (claim modified : NodeClaim) :
    Moves (Confined admitted name)
      (Pass.patchNodeClaim env call claimName claim modified) := by
  refine Moves.bind (confined_sendWrite env) fun _ => ?_
  refine Moves.bind (Moves.read _) fun found => ?_
  cases found with
  | none => exact Moves.fail _
  | some server =>
      exact Moves.update fun s =>
        .performed rfl (fun _ _ => rfl) rfl allowed

theorem confined_create
    (allowed : Allowed admitted name (.wrote call)) (bn : BootcNode) :
    Moves (Confined admitted name) (Pass.createBootcNode env call name bn) := by
  refine Moves.bind (confined_sendWrite env) fun _ => ?_
  refine Moves.bind (Moves.read _) fun found => ?_
  cases found with
  | some server => exact Moves.fail _
  | none =>
      refine Moves.update fun s =>
        .performed rfl (fun other different => ?_) rfl allowed
      simp [PassState.cell, PassState.look, PassState.perform,
        World.putBootcNode, different]

theorem confined_delete (allowed : Allowed admitted name (.wrote call)) :
    Moves (Confined admitted name) (Pass.deleteBootcNode env call name) := by
  refine Moves.bind (confined_sendWrite env) fun _ => ?_
  refine Moves.update fun s =>
    .performed rfl (fun other different => ?_) rfl allowed
  simp [PassState.cell, PassState.look, PassState.perform,
    World.putBootcNode, different]

theorem confined_setOwned (bn : Option BootcNode) :
    Moves (Confined admitted name)
      (update fun s => s.setOwned name bn : Pass Unit) := by
  refine Moves.update fun s => .silent rfl (fun other different => ?_) rfl
  simp [PassState.cell, PassState.look, PassState.setOwned, different]

theorem confined_putDrain
    (allowed : Allowed admitted name action) (drain : Option DrainStatus) :
    Moves (Confined admitted name)
      (update fun s => s.perform action (s.world.putDrain name drain) :
        Pass Unit) := by
  refine Moves.update fun s =>
    .performed rfl (fun other different => ?_) rfl allowed
  simp [PassState.cell, PassState.look, PassState.perform, World.putDrain,
    different]

theorem confined_getKarpenterNodeClaim (node : Node) :
    Moves (Confined admitted name) (getKarpenterNodeClaim env call node) :=
  Moves.ite (confined_query env _) (Moves.ret _)

theorem confined_isKarpenterDisruptionActive (node : Node) :
    Moves (Confined admitted name) (isKarpenterDisruptionActive env call node) := by
  refine Moves.ite (Moves.ret _) (Moves.ite (Moves.ret _) ?_)
  exact Moves.bind (confined_getKarpenterNodeClaim env node) fun _ =>
    Moves.ofExcept _

end Requests

section Membership

variable {admitted : Action → Bool} (r : BootcNodePoolReconciler) (env : Env)
  {name : String}

theorem confined_ensureManagedLabel
    {call : Call} (allowed : Allowed admitted name (.wrote call))
    (node : Node) (managed : Bool) :
    Moves (Confined admitted name)
      (ensureManagedLabel env call name node managed) :=
  Moves.ite (Moves.ret _) (confined_patchNode env allowed node _)

theorem confined_restoreNodeClaimState
    (allowed : Allowed admitted name (.wrote (.restoreClaim name)))
    (owner : Annotations BootcNodeKey) (node : Node) :
    Moves (Confined admitted name)
      (restoreNodeClaimState env name owner node) := by
  refine Moves.ite ?_ (Moves.ret _)
  refine Moves.bind (confined_getKarpenterNodeClaim env node).mapError
    fun result => ?_
  cases result.claim with
  | none => exact Moves.ret _
  | some found =>
      refine Moves.ite ?_ (Moves.ret _)
      exact (confined_patchNodeClaim env allowed _ _ _).mapError

theorem confined_restoreNodeState
    (claim : Allowed admitted name (.wrote (.restoreClaim name)))
    (restore : Allowed admitted name (.wrote (.restoreNode name)))
    (owner : Annotations BootcNodeKey) (node : Node) :
    Moves (Confined admitted name)
      (restoreNodeState env name owner node) := by
  have patch : Moves (Confined admitted name)
      (patchRestoredNode env name owner node) :=
    Moves.ite (confined_patchNode env restore node _).mapError (Moves.ret _)
  refine Moves.bind patch fun left => ?_
  exact Moves.bind
    (confined_restoreNodeClaimState env claim owner left).mapError
      fun _ => Moves.ret _

variable (admits : Admits admitted anyAction)

include admits

theorem confined_cancelDrain :
    Moves (Confined admitted name) (cancelDrain name) := by
  refine Moves.bind (Moves.read _) fun entry => ?_
  cases entry with
  | none => exact Moves.ret _
  | some status => exact confined_putDrain (admits.allowed rfl rfl rfl) none

theorem confined_removeBootcNode (bn : BootcNode) :
    Moves (Confined admitted name) (removeBootcNode env name bn) := by
  refine Moves.bind (confined_cancelDrain admits) fun _ => ?_
  refine Moves.bind (confined_query env _).mapError fun found => ?_
  have delete : Moves (Confined admitted name)
      (Pass.deleteBootcNode env (.deleteBootcNode name) name) :=
    confined_delete env (admits.allowed rfl rfl rfl)
  have unlabel (node : Node) : Moves (Confined admitted name)
      (ensureManagedLabel env (.unlabelNode name) name node false) :=
    confined_ensureManagedLabel env (admits.allowed rfl rfl rfl) node false
  cases found with
  | none => exact delete.mapError
  | some node =>
      refine Moves.ite (Moves.bind ?_ fun _ => delete.mapError)
        delete.mapError
      refine Moves.bind (confined_restoreNodeState env
        (admits.allowed rfl rfl rfl) (admits.allowed rfl rfl rfl) _
        _).mapError fun left => ?_
      exact Moves.bind (unlabel left).mapError fun _ => Moves.ret _

theorem confined_syncMatchingNode
    (all : String → Option BootcNode) (node : Node) :
    Moves (Confined admitted name)
      (r.syncMatchingNode env all name node) := by
  have label : Moves (Confined admitted name)
      (ensureManagedLabel env (.labelNode name) name node true) :=
    confined_ensureManagedLabel env (admits.allowed rfl rfl rfl) node true
  refine Moves.bind (Moves.read _) fun owned => ?_
  cases owned with
  | some bn =>
      refine Moves.bind label.mapError fun _ => ?_
      refine Moves.bind (Moves.mapError ?_) fun _ => Moves.ret _
      refine Moves.bind (Moves.read _) fun pool => ?_
      refine Moves.ite ?_ (Moves.ret _)
      exact (confined_patchBootcNode env (admits.allowed rfl rfl rfl) bn
        _).mapError
  | none =>
      have create : Moves (Confined admitted name)
          (r.createBootcNode env name node) := by
        refine Moves.bind (Moves.read _) fun pool => ?_
        refine Moves.bind (confined_create env (admits.allowed rfl rfl rfl)
          _).mapError fun _ => ?_
        exact Moves.bind label.mapError fun _ => Moves.ret _
      refine Moves.bind create.attempt fun result => ?_
      cases result with
      | ok bn =>
          exact Moves.bind (confined_setOwned (some bn)) fun _ => Moves.ret _
      | error err => exact Moves.ite (Moves.fail _) (Moves.ret _)

theorem confined_removeDeparted (matching : String → Option Node) :
    Moves (Confined admitted name) (removeDeparted env matching name) := by
  refine Moves.bind (Moves.read _) fun owned => ?_
  cases owned with
  | none => exact Moves.ret _
  | some bn =>
      simp only
      cases matching name with
      | some node => exact Moves.ret _
      | none =>
          exact Moves.bind (confined_removeBootcNode env admits bn).mapError
            fun _ => confined_setOwned none

end Membership

theorem confined_recordTransition (env : Env) (name : String)
    (bn : BootcNode) :
    Moves (Confined anyAction name) (recordTransition env name bn) := by
  have mark (observation : String) :
      Moves (Confined anyAction name)
        (markObserved env name bn observation) :=
    Moves.bind (confined_patchBootcNode env ⟨rfl, rfl⟩ bn _).attempt
      fun _ => Moves.ret _
  refine Moves.ite (Moves.ret _) ?_
  split
  · refine Moves.bind ?_ fun _ => mark _
    exact Moves.bind (Moves.read _) fun _ => confined_note ⟨rfl, rfl⟩
  · exact mark _

section Rollout

variable {admitted : Action → Bool} (env : Env) {name : String}

theorem confined_requeueForKarpenter :
    Moves (Confined admitted name) requeueForKarpenter :=
  Moves.update fun _ => .silent rfl (fun _ _ => rfl) rfl

section Freeing

variable (admits : Admits admitted Action.settles)

include admits

theorem confined_collectDrainResult :
    Moves (Confined admitted name) (collectDrainResult env name) := by
  have forget : Moves (Confined admitted name) (forgetDrain name) :=
    confined_putDrain (admits.allowed rfl rfl rfl) none
  refine Moves.bind (Moves.read _) fun entry => ?_
  cases entry with
  | none => exact Moves.ret _
  | some status =>
      simp only
      cases status.outcome with
      | running => exact Moves.ret _
      | failed err =>
          refine Moves.bind (Moves.read _) fun owned => Moves.ite ?_ forget
          exact Moves.bind (Moves.read _) fun _ =>
            confined_putDrain (admits.allowed rfl rfl rfl) none
      | succeeded =>
          refine Moves.bind (Moves.read _) fun owned => ?_
          cases owned with
          | none => exact forget
          | some bn =>
              refine Moves.mapError ?_
              refine Moves.bind (confined_sendWrite env).attempt
                fun result => ?_
              cases result with
              | error err => exact Moves.bind forget fun _ => Moves.fail _
              | ok _ =>
                  refine Moves.bind (Moves.read _) fun found => ?_
                  cases found with
                  | none => exact Moves.bind forget fun _ => Moves.fail _
                  | some server =>
                      refine Moves.update fun s => .performed rfl
                        (fun other different => ?_) rfl
                        (admits.allowed rfl rfl rfl)
                      simp [PassState.cell, PassState.look,
                        PassState.perform, PassState.setOwned,
                        World.putBootcNode, World.putDrain, different]

theorem confined_releaseCompleted (bn : BootcNode) (node : Node) :
    Moves (Confined admitted name) (releaseCompleted env name bn node) := by
  refine Moves.ite (Moves.ret _) (Moves.ite ?_ (Moves.mapError ?_))
  · refine Moves.bind (Moves.mapError ?_) fun _ =>
      Moves.update fun _ => .silent rfl (fun _ _ => rfl) rfl
    refine Moves.bind (confined_restoreNodeState env
      (admits.allowed rfl rfl rfl) (admits.allowed rfl rfl rfl) _ _)
      fun _ => ?_
    exact (confined_patchBootcNode env (admits.allowed rfl rfl rfl) bn
      _).mapError
  · refine Moves.bind (Moves.ite ?_ (Moves.ret _)) fun _ =>
      Moves.ite ?_ (Moves.ret _)
    · exact Moves.bind (confined_patchNode env (admits.allowed rfl rfl rfl)
        node _).mapError fun _ => Moves.ret _
    · exact (confined_patchBootcNode env (admits.allowed rfl rfl rfl) bn
        _).mapError

theorem confined_freeCompletedSlot :
    Moves (Confined admitted name) (freeCompletedSlot env name) := by
  refine Moves.bind (Moves.read _) fun owned => ?_
  cases owned with
  | none => exact Moves.ret _
  | some bn =>
      refine Moves.ite ?_ (Moves.ret _)
      exact Moves.bind (confined_getNode env name).mapError fun node =>
        confined_releaseCompleted env admits bn node

end Freeing

section Advancing

variable (admits : Admits admitted Action.keepsSlots)

theorem confined_claimToFence (node : Node)
    (prefetchedClaim : Option (String × NodeClaim)) :
    Moves (Confined admitted name)
      (claimToFence env name node prefetchedClaim) := by
  refine Moves.ite ?_ (Moves.ret _)
  cases prefetchedClaim with
  | some claim => exact Moves.ret _
  | none =>
      refine Moves.bind (confined_getKarpenterNodeClaim env node).mapError
        fun result => ?_
      cases result with
      | found name claim => exact Moves.ret _
      | absent => exact Moves.fail _
      | crdMissing => exact Moves.ret _
      | noRef => exact Moves.ret _

include admits

theorem confined_markStall :
    Moves (Confined admitted name) (markStall env name) := by
  refine Moves.bind (Moves.read _) fun entry => ?_
  cases entry with
  | none => exact Moves.ret _
  | some status =>
      refine Moves.ite (Moves.ret _) ?_
      refine Moves.bind (confined_putDrain (admits.allowed rfl rfl rfl) _)
        fun _ => ?_
      exact Moves.bind (Moves.read _) fun _ => Moves.ret _

theorem confined_assignRebootSlot (bn : BootcNode) (node : Node)
    (prefetchedClaim : Option (String × NodeClaim)) :
    Moves (Confined admitted name)
      (assignRebootSlot env name bn node prefetchedClaim) := by
  have fence (claim : Option (String × NodeClaim))
      (planned : Option (Annotations KarpenterKey)) :
      Moves (Confined admitted name)
        (fenceClaim env name claim planned) := by
    unfold fenceClaim
    split
    · refine Moves.ite ?_ (Moves.ret _)
      exact (confined_patchNodeClaim env (admits.allowed rfl rfl rfl) _ _
        _).mapError
    · exact Moves.ret _
  have cordon (planned : Annotations KarpenterKey) :
      Moves (Confined admitted name) (cordonNode env name node planned) := by
    refine Moves.ite ?_ (Moves.ret _)
    exact Moves.bind (confined_patchNode env (admits.allowed rfl rfl rfl)
      node _).mapError fun _ => Moves.ret _
  refine Moves.bind (confined_claimToFence env node prefetchedClaim)
    fun claim => ?_
  refine Moves.bind (Moves.ite ?_ (Moves.ret _)) fun _ =>
    Moves.bind (fence _ _) fun _ => cordon _
  exact (confined_patchBootcNode env (admits.allowed rfl rfl rfl) bn
    _).mapError

theorem confined_processCandidate :
    Moves (Confined admitted name) (processCandidate env name) := by
  refine Moves.bind (Moves.read _) fun owned => ?_
  cases owned with
  | none => exact Moves.ret _
  | some bn =>
      refine Moves.bind (confined_getNode env name).mapError fun node => ?_
      refine Moves.bind
        (confined_isKarpenterDisruptionActive env node).mapError
        fun disruption => ?_
      refine Moves.ite (Moves.bind confined_requeueForKarpenter fun _ =>
        Moves.ret _) ?_
      refine Moves.bind (confined_assignRebootSlot env admits bn node
        _).mapError fun _ => ?_
      exact Moves.ite (Moves.bind confined_requeueForKarpenter fun _ =>
        Moves.ret _) (Moves.ret _)

theorem confined_drainStaged :
    Moves (Confined admitted name) (drainStaged env name) := by
  refine Moves.bind (Moves.read _) fun owned => ?_
  cases owned with
  | none => exact Moves.ret _
  | some bn =>
      refine Moves.ite (Moves.ret _) ?_
      refine Moves.bind (confined_getNode env name).mapError fun node => ?_
      refine Moves.bind
        (confined_isKarpenterDisruptionActive env node).mapError
        fun disruption => Moves.ite confined_requeueForKarpenter ?_
      refine Moves.bind (Moves.read _) fun entry => ?_
      cases entry with
      | some status => exact Moves.ret _
      | none => exact confined_putDrain (admits.allowed rfl rfl rfl) _

end Advancing

end Rollout

end BootcOperator
