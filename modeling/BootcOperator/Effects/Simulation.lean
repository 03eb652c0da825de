import BootcOperator.Controller.Reconcile
import BootcOperator.Effects.Requeues
import BootcOperator.Lib.TwoRuns

/-!
# Two passes in lockstep

A relation between the states of two passes is kept by a whole `Reconcile` as
soon as it is kept by the requests a `Reconcile` is made of.
`NodeSimulation` lists the requests about one node, `ClaimSimulation` those
about NodeClaims and `PassSimulation` the remaining ones; the theorems below
then follow the code.

The relation may hold more than that the states agree: `known` is what the
passes know of the pool in their memory, and `writable` the references to pull
secrets that they may write to a BootcNode.
-/

namespace BootcOperator

open Program BootcNodePoolReconciler

variable {pool : BootcNodePool}

/-- The operations on one node run alike from related states. -/
structure NodeSimulation (env env' : Env)
    (rel : PassState → PassState → Prop) (known : BootcNodePool → Prop)
    (writable : Option PullSecretRef → Prop) (name : String) : Prop where
  now : env'.now = env.now
  pool : Relates rel (fun pool pool' => pool = pool' ∧ known pool)
    (read (·.pool) : Pass BootcNodePool) (read (·.pool))
  owned : Relates rel Eq (read fun s => s.owned name : Pass _)
    (read fun s => s.owned name)
  drain : Relates rel Eq (read fun s => s.world.drains name : Pass _)
    (read fun s => s.world.drains name)
  setOwned : ∀ bn, Relates rel Eq
    (update fun s => s.setOwned name bn : Pass Unit)
    (update fun s => s.setOwned name bn)
  putDrain : ∀ action drain, Relates rel Eq
    (update fun s => s.perform action (s.world.putDrain name drain) :
      Pass Unit)
    (update fun s => s.perform action (s.world.putDrain name drain))
  note : ∀ action, Relates rel Eq (Pass.note action) (Pass.note action)
  queryNode : ∀ call, Relates rel Eq (Pass.query env call (·.node name))
    (Pass.query env' call (·.node name))
  patchNode : ∀ call node modified, Relates rel Eq
    (Pass.patchNode env call name node modified)
    (Pass.patchNode env' call name node modified)
  patchBootcNode : ∀ call base modified,
    (modified.spec.pullSecretRef = base.spec.pullSecretRef ∨
      writable modified.spec.pullSecretRef) →
    Relates rel Eq (Pass.patchBootcNode env call name base modified)
      (Pass.patchBootcNode env' call name base modified)
  createBootcNode : ∀ call bn, writable bn.spec.pullSecretRef →
    Relates rel Eq (Pass.createBootcNode env call name bn)
      (Pass.createBootcNode env' call name bn)
  deleteBootcNode : ∀ call, Relates rel Eq
    (Pass.deleteBootcNode env call name)
    (Pass.deleteBootcNode env' call name)
  approve : ∀ bn, Relates rel Eq (approveReboot env name bn)
    (approveReboot env' name bn)
  release : Relates rel Eq
    (update fun s =>
      { s with rs := { s.rs with occupiedSlots := s.rs.occupiedSlots - 1 } } :
      Pass Unit)
    (update fun s =>
      { s with rs := { s.rs with occupiedSlots := s.rs.occupiedSlots - 1 } })
  requeue : Relates rel Eq requeueForKarpenter requeueForKarpenter

/-- So do those on NodeClaims. -/
structure ClaimSimulation (env env' : Env)
    (rel : PassState → PassState → Prop) : Prop where
  lookup : ∀ call node, Relates rel Eq (getKarpenterNodeClaim env call node)
    (getKarpenterNodeClaim env' call node)
  patchNodeClaim : ∀ call claimName claim modified, Relates rel Eq
    (Pass.patchNodeClaim env call claimName claim modified)
    (Pass.patchNodeClaim env' call claimName claim modified)

def RestoresClaim (env env' : Env) (rel : PassState → PassState → Prop)
    (name : String) : Prop :=
  ∀ owner node, Relates rel Eq (restoreNodeClaimState env name owner node)
    (restoreNodeClaimState env' name owner node)

/-- The lookups agree but for the claim they return. -/
def SameVerdict (first second : KarpenterDisruptionStatus) : Prop :=
  first.claimMissing = second.claimMissing ∧ first.active = second.active

/-- The lookup of an active disruption has the same verdict. -/
def SharesVerdicts (env env' : Env) (rel : PassState → PassState → Prop) :
    Prop :=
  ∀ call node, Relates rel SameVerdict
    (isKarpenterDisruptionActive env call node)
    (isKarpenterDisruptionActive env' call node)

section Claims

variable {env env' : Env} {rel : PassState → PassState → Prop}
  (claims : ClaimSimulation env env' rel)

include claims

theorem relates_isKarpenterDisruptionActive (call : Call) (node : Node) :
    Relates rel Eq (isKarpenterDisruptionActive env call node)
      (isKarpenterDisruptionActive env' call node) := by
  refine .ite (.ret rfl) (.ite (.ret rfl) ?_)
  exact (claims.lookup call node).bind fun result => .ofExcept _

theorem ClaimSimulation.restores (name : String) :
    RestoresClaim env env' rel name := by
  intro owner node
  refine .ite ?_ (.ret rfl)
  refine (claims.lookup _ node).mapError.bind fun result => ?_
  cases result.claim with
  | none => exact .ret rfl
  | some found =>
      exact .ite (claims.patchNodeClaim _ _ _ _).mapError (.ret rfl)

end Claims

section Node

variable {r : BootcNodePoolReconciler} {env env' : Env}
  {rel : PassState → PassState → Prop} {known : BootcNodePool → Prop}
  {writable : Option PullSecretRef → Prop} {name : String}
  (sim : NodeSimulation env env' rel known writable name)

include sim

theorem NodeSimulation.annotate
    (call : Call) (bn : BootcNode) (annotations : Annotations BootcNodeKey) :
    Relates rel Eq
      (Pass.patchBootcNode env call name bn
        { bn with annotations := annotations })
      (Pass.patchBootcNode env' call name bn
        { bn with annotations := annotations }) :=
  sim.patchBootcNode call bn { bn with annotations := annotations } (.inl rfl)

theorem relates_getNode (call : Call) :
    Relates rel Eq (Pass.getNode env call name)
      (Pass.getNode env' call name) := by
  refine (sim.queryNode call).bind fun found => ?_
  cases found with
  | none => exact .fail _
  | some node => exact .ret rfl

theorem relates_ensureManagedLabel
    (call : Call) (node : Node) (managed : Bool) :
    Relates rel Eq (ensureManagedLabel env call name node managed)
      (ensureManagedLabel env' call name node managed) :=
  .ite (.ret rfl) (sim.patchNode call node _)

theorem relates_restoreNodeState
    (restores : RestoresClaim env env' rel name)
    (owner : Annotations BootcNodeKey) (node : Node) :
    Relates rel Eq (restoreNodeState env name owner node)
      (restoreNodeState env' name owner node) := by
  have patch : Relates rel Eq (patchRestoredNode env name owner node)
      (patchRestoredNode env' name owner node) :=
    .ite (sim.patchNode _ node _).mapError (.ret rfl)
  exact patch.bind fun left =>
    (restores owner left).mapError.bind fun _ => .ret rfl

theorem relates_cancelDrain :
    Relates rel Eq (cancelDrain name) (cancelDrain name) := by
  refine sim.drain.bind fun entry => ?_
  cases entry with
  | none => exact .ret rfl
  | some status => exact sim.putDrain _ none

theorem relates_removeBootcNode
    (restores : RestoresClaim env env' rel name) (bn : BootcNode) :
    Relates rel Eq (removeBootcNode env name bn)
      (removeBootcNode env' name bn) := by
  have delete :
      Relates rel Eq
        (Program.mapError (.wrap "deleting BootcNode: ")
          (Pass.deleteBootcNode env (.deleteBootcNode name) name))
        (Program.mapError (.wrap "deleting BootcNode: ")
          (Pass.deleteBootcNode env' (.deleteBootcNode name) name)) :=
    (sim.deleteBootcNode (.deleteBootcNode name)).mapError
  refine (relates_cancelDrain sim).bind fun _ => ?_
  refine (sim.queryNode _).mapError.bind fun found => ?_
  cases found with
  | none => exact delete
  | some node =>
      refine .ite (.bind ?_ fun _ => delete) delete
      refine (relates_restoreNodeState sim restores _ node).mapError.bind
        fun left => ?_
      exact (relates_ensureManagedLabel sim _ left false).mapError.bind
        fun _ => .ret rfl

theorem relates_removeDeparted
    (restores : RestoresClaim env env' rel name)
    (matching : String → Option Node) :
    Relates rel Eq (removeDeparted env matching name)
      (removeDeparted env' matching name) := by
  refine sim.owned.bind fun found => ?_
  cases found with
  | none => exact .ret rfl
  | some bn =>
      dsimp only
      cases matching name with
      | some node => exact .ret rfl
      | none =>
          exact (relates_removeBootcNode sim restores bn).mapError.bind
            fun _ => sim.setOwned none

theorem relates_removeForDeletion
    (restores : RestoresClaim env env' rel name) (pool : BootcNodePool)
    (all : String → Option BootcNode) :
    Relates rel Eq (removeForDeletion env pool all name)
      (removeForDeletion env' pool all name) := by
  unfold removeForDeletion
  cases all name with
  | none => exact .ret rfl
  | some bn =>
      exact .ite (relates_removeBootcNode sim restores bn).mapError (.ret rfl)

theorem relates_syncBootcNodeSpec
    (written : ∀ pool, known pool → writable pool.spec.pullSecretRef)
    (bn : BootcNode) :
    Relates rel Eq (r.syncBootcNodeSpec env name bn)
      (r.syncBootcNodeSpec env' name bn) := by
  refine sim.pool.bindOf ?_
  rintro pool _ ⟨rfl, isKnown⟩
  refine .ite (Relates.mapError ?_) (.ret rfl)
  exact sim.patchBootcNode _ bn _ (.inr (written pool isKnown))

theorem relates_createBootcNode
    (written : ∀ pool, known pool → writable pool.spec.pullSecretRef)
    (node : Node) :
    Relates rel Eq (r.createBootcNode env name node)
      (r.createBootcNode env' name node) := by
  refine sim.pool.bindOf ?_
  rintro pool _ ⟨rfl, isKnown⟩
  refine (sim.createBootcNode _ _ (written pool isKnown)).mapError.bind
    fun _ => ?_
  exact (relates_ensureManagedLabel sim _ node true).mapError.bind
    fun _ => .ret rfl

theorem relates_syncMatchingNode
    (written : ∀ pool, known pool → writable pool.spec.pullSecretRef)
    (all : String → Option BootcNode) (node : Node) :
    Relates rel Eq (r.syncMatchingNode env all name node)
      (r.syncMatchingNode env' all name node) := by
  refine sim.owned.bind fun found => ?_
  cases found with
  | some bn =>
      refine (relates_ensureManagedLabel sim _ node true).mapError.bind
        fun _ => ?_
      exact (relates_syncBootcNodeSpec sim written bn).mapError.bind
        fun _ => .ret rfl
  | none =>
      refine (relates_createBootcNode sim written node).attempt.bind
        fun result => ?_
      cases result with
      | ok bn => exact (sim.setOwned _).bind fun _ => .ret rfl
      | error err => exact .ite (.fail _) (.ret rfl)

theorem relates_recordNodeEvent
    (type : EventType) (reason action : String) (eventNote : EventNote) :
    Relates rel Eq (recordNodeEvent name type reason action eventNote)
      (recordNodeEvent name type reason action eventNote) := by
  refine sim.pool.bindOf ?_
  rintro pool _ ⟨rfl, _⟩
  exact sim.note _

theorem relates_recordTransition (bn : BootcNode) :
    Relates rel Eq (recordTransition env name bn)
      (recordTransition env' name bn) := by
  have mark (observation : String) :
      Relates rel Eq (markObserved env name bn observation)
        (markObserved env' name bn observation) :=
    (sim.annotate _ bn _).attempt.bind fun _ => .ret rfl
  unfold recordTransition
  dsimp only
  rcases nodeEvent bn (observationOf bn) with ⟨observation, event⟩
  refine .ite (.ret rfl) ?_
  cases event with
  | none => exact mark observation
  | some event =>
      exact (relates_recordNodeEvent sim _ _ _ _).bind fun _ =>
        mark observation

theorem relates_markStall :
    Relates rel Eq (markStall env name) (markStall env' name) := by
  unfold markStall
  rw [sim.now]
  refine sim.drain.bind fun entry => ?_
  cases entry with
  | none => exact .ret rfl
  | some status =>
      refine .ite (.ret rfl) ((sim.putDrain _ _).bind fun _ => ?_)
      exact sim.owned.bind fun owned => .ret rfl

theorem relates_collectDrainResult :
    Relates rel Eq (collectDrainResult env name)
      (collectDrainResult env' name) := by
  refine sim.drain.bind fun entry => ?_
  cases entry with
  | none => exact .ret rfl
  | some status =>
      dsimp only
      cases status.outcome with
      | running => exact .ret rfl
      | failed err =>
          refine sim.owned.bind fun owned =>
            .ite (sim.pool.bindOf ?_) (sim.putDrain _ none)
          rintro pool _ ⟨rfl, _⟩
          exact sim.putDrain _ none
      | succeeded =>
          refine sim.owned.bind fun owned => ?_
          cases owned with
          | none => exact sim.putDrain _ none
          | some bn => exact (sim.approve bn).mapError

theorem relates_releaseCompleted
    (restores : RestoresClaim env env' rel name)
    (bn : BootcNode) (node : Node) :
    Relates rel Eq (releaseCompleted env name bn node)
      (releaseCompleted env' name bn node) := by
  refine .ite (.ret rfl) (.ite ?_ (Relates.mapError ?_))
  · refine (Relates.mapError ?_).bind fun _ => sim.release
    refine (relates_restoreNodeState sim restores _ node).bind fun _ => ?_
    exact (sim.annotate _ bn _).mapError
  · refine Relates.bind (.ite ?_ (.ret rfl)) fun _ => .ite ?_ (.ret rfl)
    · exact (sim.patchNode _ node _).mapError.bind fun _ => .ret rfl
    · exact (sim.annotate _ bn _).mapError

theorem relates_freeCompletedSlot
    (restores : RestoresClaim env env' rel name) :
    Relates rel Eq (freeCompletedSlot env name)
      (freeCompletedSlot env' name) := by
  refine sim.owned.bind fun found => ?_
  cases found with
  | none => exact .ret rfl
  | some bn =>
      refine .ite ?_ (.ret rfl)
      exact (relates_getNode sim _).mapError.bind fun node =>
        relates_releaseCompleted sim restores bn node

theorem relates_drainStaged (verdicts : SharesVerdicts env env' rel) :
    Relates rel Eq (drainStaged env name) (drainStaged env' name) := by
  have start : Relates rel Eq (ensureDrain env name)
      (ensureDrain env' name) := by
    unfold ensureDrain
    rw [sim.now]
    refine sim.drain.bind fun entry => ?_
    cases entry with
    | some status => exact .ret rfl
    | none => exact sim.putDrain _ _
  refine sim.owned.bind fun found => ?_
  cases found with
  | none => exact .ret rfl
  | some bn =>
      refine .ite (.ret rfl) ?_
      refine (relates_getNode sim _).mapError.bind fun node => ?_
      refine (verdicts _ node).mapError.bindOf ?_
      rintro first second ⟨missing, active⟩
      rw [missing, active]
      exact .ite sim.requeue start

theorem relates_assignRebootSlot
    (claims : ClaimSimulation env env' rel) (bn : BootcNode) (node : Node)
    (prefetchedClaim : Option (String × NodeClaim)) :
    Relates rel Eq (assignRebootSlot env name bn node prefetchedClaim)
      (assignRebootSlot env' name bn node prefetchedClaim) := by
  have claim : Relates rel Eq (claimToFence env name node prefetchedClaim)
      (claimToFence env' name node prefetchedClaim) := by
    refine .ite ?_ (.ret rfl)
    cases prefetchedClaim with
    | some found => exact .ret rfl
    | none =>
        refine (claims.lookup _ node).mapError.bind fun result => ?_
        cases result with
        | found claimName found => exact .ret rfl
        | absent => exact .fail _
        | crdMissing => exact .ret rfl
        | noRef => exact .ret rfl
  have fence (found : Option (String × NodeClaim))
      (planned : Option (Annotations KarpenterKey)) :
      Relates rel Eq (fenceClaim env name found planned)
        (fenceClaim env' name found planned) := by
    unfold fenceClaim
    split
    · exact .ite (claims.patchNodeClaim _ _ _ _).mapError (.ret rfl)
    · exact .ret rfl
  have cordon (planned : Annotations KarpenterKey) :
      Relates rel Eq (cordonNode env name node planned)
        (cordonNode env' name node planned) :=
    .ite ((sim.patchNode _ node _).mapError.bind fun _ => .ret rfl) (.ret rfl)
  refine claim.bind fun found => ?_
  refine Relates.bind (.ite ?_ (.ret rfl)) fun _ =>
    (fence _ _).bind fun _ => cordon _
  exact (sim.annotate _ bn _).mapError

theorem relates_processCandidate (claims : ClaimSimulation env env' rel) :
    Relates rel Eq (processCandidate env name)
      (processCandidate env' name) := by
  refine sim.owned.bind fun found => ?_
  cases found with
  | none => exact .ret rfl
  | some bn =>
      refine (relates_getNode sim _).mapError.bind fun node => ?_
      refine (relates_isKarpenterDisruptionActive claims _
        node).mapError.bind fun disruption => ?_
      refine .ite (sim.requeue.bind fun _ => .ret rfl) ?_
      refine (relates_assignRebootSlot sim claims bn node _).mapError.bind
        fun _ => ?_
      exact .ite (sim.requeue.bind fun _ => .ret rfl) (.ret rfl)

end Node

theorem relates_assignUnslotted
    {env env' : Env} {rel : PassState → PassState → Prop}
    (each : ∀ name, Relates rel Eq (processCandidate env name)
      (processCandidate env' name))
    (availableSlots : Int) (names : List String) (assignedSlots : Int) :
    Relates rel Eq (assignUnslotted env availableSlots assignedSlots names)
      (assignUnslotted env' availableSlots assignedSlots names) := by
  induction names generalizing assignedSlots with
  | nil => exact .ret rfl
  | cons name rest ih =>
      refine .ite (.ret rfl) ((each name).bind fun isSlotted => ?_)
      exact ih _

/-! ## The whole pass -/

/-- What a pass remembers. -/
structure Memory where
  pool : BootcNodePool
  owned : String → Option BootcNode
  rs : RolloutState
  rolloutHalted : Bool
  maxUnavail : Option Int

def PassState.memory (s : PassState) : Memory :=
  { pool := s.pool
    owned := s.owned
    rs := s.rs
    rolloutHalted := s.rolloutHalted
    maxUnavail := s.maxUnavail }

def PassState.withMemory (s : PassState) (memory : Memory) : PassState :=
  { s with
    pool := memory.pool
    owned := memory.owned
    rs := memory.rs
    rolloutHalted := memory.rolloutHalted
    maxUnavail := memory.maxUnavail }

/-- All primitive operations run alike from related states. -/
structure PassSimulation (r : BootcNodePoolReconciler) (env env' : Env)
    (rel : PassState → PassState → Prop) (known : BootcNodePool → Prop)
    (writable : Option PullSecretRef → Prop) : Prop where
  order : env'.order = env.order
  resolve : env'.resolve = env.resolve
  node : ∀ name, NodeSimulation env env' rel known writable name
  claims : ClaimSimulation env env' rel
  spec : ∀ pool pool', pool'.spec = pool.spec → known pool → known pool'
  remember : ∀ {α : Type} (part : Memory → α), Relates rel Eq
    (read fun s => part s.memory : Pass α) (read fun s => part s.memory)
  revise : ∀ change : Memory → Memory,
    (∀ memory, known memory.pool → known (change memory).pool) →
    Relates rel Eq
      (update fun s => s.withMemory (change s.memory) : Pass Unit)
      (update fun s => s.withMemory (change s.memory))
  drains : Relates rel Eq (read fun s => s.world.drains : Pass _)
    (read fun s => s.world.drains)
  listNodes : ∀ selector : Labels → Bool, Relates rel Eq
    (Pass.query env .listNodes fun cluster name =>
      (cluster.node name).filter fun node => selector node.labels)
    (Pass.query env' .listNodes fun cluster name =>
      (cluster.node name).filter fun node => selector node.labels)
  listBootcNodes : Relates rel Eq
    (Pass.query env .listBootcNodes (·.bootcNode))
    (Pass.query env' .listBootcNodes (·.bootcNode))
  updatePool : ∀ request pool, Relates rel Eq
    (Pass.updatePool env request pool) (Pass.updatePool env' request pool)
  updatePoolStatus : ∀ request pool, Relates rel Eq
    (Pass.updatePoolStatus env request pool)
    (Pass.updatePoolStatus env' request pool)

section Pass

variable {r : BootcNodePoolReconciler} {env env' : Env}
  {rel : PassState → PassState → Prop} {known : BootcNodePool → Prop}
  {writable : Option PullSecretRef → Prop} {request : String}
  {previous : BootcNodePoolStatus}
  (sim : PassSimulation r env env' rel known writable)

include sim

theorem PassSimulation.now : env'.now = env.now :=
  (sim.node "").now

theorem PassSimulation.setPool
    (change : BootcNodePool → BootcNodePool)
    (keeps : ∀ pool, known pool → known (change pool)) :
    Relates rel Eq
      (update fun s => { s with pool := change s.pool } : Pass Unit)
      (update fun s => { s with pool := change s.pool }) :=
  sim.revise (fun memory => { memory with pool := change memory.pool })
    fun _ => keeps _

theorem known_setPoolDegraded
    (now : Time) (reason message : String) (isKnown : known pool) :
    known (setPoolDegraded now reason message pool) := by
  refine sim.spec pool _ ?_ isKnown
  unfold setPoolDegraded
  dsimp only
  split_ifs <;> rfl

theorem known_clearPoolDegradedReason
    (now : Time) (reason : String) (isKnown : known pool) :
    known (clearPoolDegradedReason now reason pool) := by
  refine sim.spec pool _ ?_ isKnown
  unfold clearPoolDegradedReason
  split_ifs <;> rfl

theorem relates_complete
    (tagTargetChanged : Bool) (requeueAfter : Duration) :
    Relates rel Eq
      (complete env request previous tagTargetChanged requeueAfter)
      (complete env' request previous tagTargetChanged requeueAfter) := by
  refine (Relates.mapError ?_).bind fun _ => .ret rfl
  refine (sim.remember (·.pool)).bind fun pool => .ite (.ret rfl) ?_
  refine (sim.updatePoolStatus request pool).bind fun _ => ?_
  exact .forEach fun event => (sim.node "").note _

theorem relates_reportDegraded (reason message : String) :
    Relates rel Eq (reportDegraded env request previous reason message)
      (reportDegraded env' request previous reason message) := by
  unfold reportDegraded
  rw [sim.now]
  exact (sim.setPool _ fun _ =>
    known_setPoolDegraded sim env.now reason message).bind fun _ =>
      relates_complete sim false 0

theorem relates_handleStepError (text : String) (err : ApiError) :
    Relates rel Eq (handleStepError env request previous text err)
      (handleStepError env' request previous text err) :=
  .ite (relates_reportDegraded sim _ _) (.fail _)

theorem relates_handlePoolDeletion :
    Relates rel Eq (handlePoolDeletion env request)
      (handlePoolDeletion env' request) := by
  unfold handlePoolDeletion
  rw [sim.order]
  refine (sim.node "").pool.bindOf ?_
  rintro pool _ ⟨rfl, isKnown⟩
  refine .ite (.ret rfl) ?_
  refine sim.listBootcNodes.mapError.mapError.bind fun all => ?_
  refine (Relates.forEach fun name => relates_removeForDeletion
    (sim.node name) (sim.claims.restores name) pool all).bind fun _ => ?_
  refine (sim.setPool (fun _ =>
    { pool with
      finalizers := pool.finalizers.filter (· ≠ finalizerPoolCleanup) })
    fun _ _ => sim.spec pool _ rfl isKnown).bind fun _ => ?_
  refine (sim.updatePool request _).attempt.bind fun result => ?_
  cases result with
  | ok _ => exact .ret rfl
  | error err => exact .ite (.ret rfl) (.fail _)

theorem relates_addFinalizer :
    Relates rel Eq (addFinalizer env request)
      (addFinalizer env' request) := by
  refine Relates.bind (sim.setPool
    (fun pool =>
      { pool with finalizers := pool.finalizers ++ [finalizerPoolCleanup] })
    fun pool isKnown => sim.spec pool _ rfl isKnown) fun _ => ?_
  exact (sim.remember (·.pool)).bind fun pool =>
    (sim.updatePool request pool).mapError

theorem relates_recordNodeEvents :
    Relates rel Eq (recordNodeEvents env) (recordNodeEvents env') := by
  unfold recordNodeEvents
  rw [sim.order]
  refine .forEach fun name => (sim.node name).owned.bind fun found => ?_
  cases found with
  | none => exact .ret rfl
  | some bn => exact relates_recordTransition (sim.node name) bn

theorem relates_recordDrainStalls :
    Relates rel Eq (recordDrainStalls env) (recordDrainStalls env') := by
  have check (drains : String → Option DrainStatus) :
      nextDrainCheck env' drains = nextDrainCheck env drains := by
    unfold nextDrainCheck
    rw [sim.order, sim.now]
  unfold recordDrainStalls
  rw [sim.order]
  refine sim.drains.bind fun drains => ?_
  refine (Relates.gather fun name =>
    relates_markStall (sim.node name)).bind fun stalled => ?_
  refine (Relates.forEach fun name =>
    relates_recordNodeEvent (sim.node name) _ _ _ _).bind fun _ => ?_
  exact .ret (check drains).symm

theorem relates_finishPass (tagTargetChanged : Bool) (requeueAfter : Duration) :
    Relates rel Eq
      (finishPass env request previous tagTargetChanged requeueAfter)
      (finishPass env' request previous tagTargetChanged requeueAfter) := by
  unfold finishPass
  rw [sim.now]
  refine (relates_recordDrainStalls sim).bind fun stallCheck => ?_
  refine Relates.bind (sim.revise
    (fun memory =>
      { memory with pool := syncPoolStatus env.now memory.rs memory.pool })
    fun memory isKnown => sim.spec memory.pool _ rfl isKnown) fun _ => ?_
  exact (sim.remember (·.rs)).bind fun rs => relates_complete sim _ _

theorem relates_requeueForFencedNodes :
    Relates rel Eq requeueForFencedNodes requeueForFencedNodes := by
  have decision : Relates rel Eq
      (read fun s => fenced s.rs.staged s.owned : Pass Bool)
      (read fun s => fenced s.rs.staged s.owned) :=
    sim.remember fun memory => fenced memory.rs.staged memory.owned
  have asSequence : requeueForFencedNodes =
      (read (fun s => fenced s.rs.staged s.owned) >>= fun isFenced =>
        if isFenced then requeueForKarpenter else pure ()) := by
    funext s
    rw [requeueForFencedNodes_apply, bind_apply, read_apply]
    dsimp only
    split <;> rfl
  rw [asSequence]
  exact decision.bind fun isFenced => .ite (sim.node "").requeue (.ret rfl)

theorem relates_advanceRollout :
    Relates rel Eq (r.advanceRollout env) (r.advanceRollout env') := by
  have process (name : String) := relates_processCandidate (sim.node name)
    sim.claims
  have verdicts : SharesVerdicts env env' rel := fun call node =>
    (relates_isKarpenterDisruptionActive sim.claims call node).imp
      fun _ _ isSame => isSame ▸ ⟨rfl, rfl⟩
  refine (sim.remember (·.pool)).bind fun pool => ?_
  refine (sim.remember (·.rs)).bind fun rs => ?_
  refine (Relates.ofExcept _).bind fun maxUnavail => ?_
  refine Relates.bind (sim.revise
    (fun memory => { memory with maxUnavail := some maxUnavail })
    fun _ isKnown => isKnown) fun _ => ?_
  refine (sim.remember (·.owned)).bind fun owned => ?_
  refine (Relates.forEach fun name => (process name).bind fun _ =>
    .ret rfl).bind fun _ => ?_
  refine (relates_assignUnslotted process _ _ 0).bind fun _ => ?_
  refine (relates_requeueForFencedNodes sim).bind fun _ => ?_
  exact .forEach fun name => relates_drainStaged (sim.node name) verdicts

theorem relates_driveRollout :
    Relates rel Eq (r.driveRollout env) (r.driveRollout env') := by
  have collect : Relates rel Eq (collectDrainResults env)
      (collectDrainResults env') := by
    unfold collectDrainResults
    rw [sim.order]
    exact .forEach fun name => relates_collectDrainResult (sim.node name)
  have classify : Relates rel Eq (r.classifyNodes env)
      (r.classifyNodes env') := by
    unfold classifyNodes
    rw [sim.order, sim.now]
    refine sim.revise
      (fun memory =>
        let rs := applyRebootTimeouts memory.owned
          (resolveRebootTimeout memory.pool) env.now
          (buildRolloutState r.references memory.owned
            (env.order .classification))
        { memory with
          rs := rs
          pool :=
            if rs.degraded ≠ [] then
              setPoolDegraded env.now poolNodeDegraded
                ("Degraded nodes: " ++
                  String.intercalate ", " (sortNames rs.degraded)) memory.pool
            else memory.pool }) fun memory isKnown => ?_
    dsimp only
    split_ifs
    · exact known_setPoolDegraded sim _ _ _ isKnown
    · exact isKnown
  have free : Relates rel Eq (freeCompletedSlots env)
      (freeCompletedSlots env') :=
    (sim.remember (·.rs)).bind fun rs => .forEach fun name =>
      relates_freeCompletedSlot (sim.node name) (sim.claims.restores name)
  refine collect.mapError.bind fun _ => classify.bind fun _ =>
    free.mapError.bind fun _ => ?_
  refine (sim.remember fun memory => findUnhealthySlots r.references
    memory.owned memory.rs memory.pool.status.targetDigest).bind
      fun unhealthy => .ite ?_ (relates_advanceRollout sim)
  unfold haltRollout
  rw [sim.now]
  exact sim.revise
    (fun memory =>
      { memory with
        rolloutHalted := true
        pool :=
          setPoolDegraded env.now poolRolloutHalted
            ("Rollout halted: 2+ unhealthy nodes in reboot slots (" ++
              String.intercalate ", "
                (sortNames
                  (unhealthy.map fun u => u.name ++ ": " ++ u.reason)) ++
              ")") memory.pool })
    fun _ isKnown => known_setPoolDegraded sim _ _ _ isKnown

variable (written : ∀ pool, known pool → writable pool.spec.pullSecretRef)

include written

theorem relates_syncMembership :
    Relates rel Eq (r.syncMembership env) (r.syncMembership env') := by
  unfold syncMembership
  rw [sim.order, sim.now]
  have list : Relates rel Eq (r.listMatchingNodes env)
      (r.listMatchingNodes env') := by
    refine (sim.remember (·.pool)).bind fun pool => ?_
    cases r.labelSelectorAsSelector pool.spec.nodeSelector with
    | error err => exact .fail _
    | ok selector => exact (sim.listNodes selector).mapError
  refine list.mapError.bind fun matching => ?_
  refine sim.listBootcNodes.mapError.mapError.bind fun all => ?_
  refine Relates.bind (sim.revise
    (fun memory =>
      { memory with
        owned := fun name =>
          (all name).filter (·.isControlledBy memory.pool) })
    fun _ isKnown => isKnown) fun _ => ?_
  refine (Relates.gather fun name => ?_).bind fun conflicting => ?_
  · cases matching name with
    | none => exact .ret rfl
    | some node =>
        exact relates_syncMatchingNode (sim.node name) written all node
  refine (Relates.forEach fun name => relates_removeDeparted (sim.node name)
    (sim.claims.restores name) matching).bind fun _ => .ite ?_ (.ret rfl)
  exact sim.setPool _ fun _ isKnown => known_setPoolDegraded sim _ _ _ isKnown

theorem relates_reconcileTarget
    (tagTargetChanged : Bool) (requeueAfter : Duration) :
    Relates rel Eq
      (r.reconcileTarget env request previous tagTargetChanged requeueAfter)
      (r.reconcileTarget env' request previous tagTargetChanged
        requeueAfter) := by
  unfold reconcileTarget
  rw [sim.now]
  refine (sim.setPool (clearRolloutReasons env.now)
    fun pool isKnown => ?_).bind fun _ => ?_
  · exact known_clearPoolDegradedReason sim _ _
      (known_clearPoolDegradedReason sim _ _
        (known_clearPoolDegradedReason sim _ _
          (known_clearPoolDegradedReason sim _ _ isKnown)))
  refine (relates_syncMembership sim written).attempt.bind fun result => ?_
  cases result with
  | error err => exact relates_handleStepError sim _ err
  | ok _ =>
      refine (relates_recordNodeEvents sim).bind fun _ => ?_
      refine (relates_driveRollout sim).attempt.bind fun result => ?_
      cases result with
      | error err => exact relates_handleStepError sim _ err
      | ok _ => exact relates_finishPass sim _ _

theorem relates_reconcileImage
    (kept : ∀ pool secretData resolution, known pool →
      r.resolveTargetDigest env pool secretData = .ok resolution →
        known resolution.pool)
    (secretData : Option String) :
    Relates rel Eq (r.reconcileImage env request previous secretData)
      (r.reconcileImage env' request previous secretData) := by
  have resolveSame (pool : BootcNodePool) :
      r.resolveTargetDigest env' pool secretData =
        r.resolveTargetDigest env pool secretData := by
    unfold resolveTargetDigest resolveTag
    rw [sim.now, sim.resolve]
  unfold reconcileImage
  simp only [resolveSame]
  rw [sim.now]
  refine (sim.setPool _ fun pool isKnown =>
    known_clearPoolDegradedReason sim _ _ isKnown).bind fun _ => ?_
  refine (sim.node "").pool.bindOf ?_
  rintro pool _ ⟨rfl, isKnown⟩
  cases resolved : r.resolveTargetDigest env pool secretData with
  | error err => exact relates_handleStepError sim _ err
  | ok resolution =>
      have adopt : Relates rel Eq (adoptResolution resolution)
          (adoptResolution resolution) := by
        have set := sim.setPool (fun _ => resolution.pool) fun _ _ =>
          kept pool secretData resolution isKnown resolved
        unfold adoptResolution
        cases resolution.answer with
        | none => exact set
        | some answer =>
            exact (sim.remember (·.pool)).bind fun pool =>
              ((sim.node "").note _).bind fun _ => set
      exact adopt.bind fun _ => .ite (relates_complete sim _ _)
        (relates_reconcileTarget sim written _ _)

end Pass

/-- A `Reconcile` behind the read of the pool; `live` is its part for a pool
that is not being deleted. -/
theorem relates_reconcilePool
    {r : BootcNodePoolReconciler} {env env' : Env}
    {rel : PassState → PassState → Prop} {known : BootcNodePool → Prop}
    {writable : Option PullSecretRef → Prop} {request : String}
    (sim : PassSimulation r env env' rel known writable) (isKnown : known pool)
    (live : Relates rel Eq (r.reconcileLive env request)
      (r.reconcileLive env' request)) :
    Relates rel Eq (r.reconcilePool env request pool)
      (r.reconcilePool env' request pool) := by
  refine (sim.setPool (fun _ => pool) fun _ _ => isKnown).bind fun _ => ?_
  refine .ite ?_ (.ite ?_ live)
  · exact (relates_handlePoolDeletion sim).bind fun _ => .ret rfl
  · exact (relates_addFinalizer sim).bind fun _ => .ret rfl

end BootcOperator
