import BootcOperator.Effects.Simulation
import Mathlib.Data.Set.Basic

/-!
# Passes that see the same

Two passes behave alike when they agree on what they look at.  A `Sight` says
which parts of the state are compared; the remaining parts may differ, as long
as no request of the pass depends on them.
-/

namespace BootcOperator

open Program BootcNodePoolReconciler

/-- The parts of the state on which two passes are compared. -/
structure Sight where
  /-- the nodes -/
  names : Set String
  /-- the namespaces of the Secrets -/
  namespaces : Set String
  /-- the annotations of NodeClaims are compared -/
  annotated : Prop
  /-- what has been written and done is compared -/
  traced : Prop
  /-- the rollout states that count as the same -/
  rollout : RolloutState → RolloutState → Prop

/-- The counters of a rollout may change. -/
structure Sight.Steady (v : Sight) : Prop where
  release : ∀ {rs rs'}, v.rollout rs rs' →
    v.rollout { rs with occupiedSlots := rs.occupiedSlots - 1 }
      { rs' with occupiedSlots := rs'.occupiedSlots - 1 }
  requeue : ∀ {rs rs'} delay, v.rollout rs rs' →
    v.rollout (rs.setRequeueAfter delay) (rs'.setRequeueAfter delay)

def NodeClaim.unannotated (claim : NodeClaim) : NodeClaim :=
  { claim with annotations := .empty }

/-! ## Agreement -/

/-- What a pass can see is the same in both clusters. -/
structure Cluster.Alike (v : Sight) (c c' : Cluster) : Prop where
  node : ∀ name ∈ v.names, c'.node name = c.node name
  bootcNode : ∀ name ∈ v.names, c'.bootcNode name = c.bootcNode name
  claim : ∀ name, (c'.nodeClaim name).map NodeClaim.unannotated =
    (c.nodeClaim name).map NodeClaim.unannotated
  annotations : v.annotated → c'.nodeClaim = c.nodeClaim
  pool : c'.pool = c.pool
  secret : ∀ ns ∈ v.namespaces, c'.secret ns = c.secret ns
  nodeClaimCRD : c'.nodeClaimCRD = c.nodeClaimCRD

structure World.Alike (v : Sight) (w w' : World) : Prop where
  api : w.api.Alike v w'.api
  drains : ∀ name ∈ v.names, w'.drains name = w.drains name
  cordoned : ∀ name ∈ v.names, w'.cordoned name = w.cordoned name

/-- The two entries are about the same action with the same effect. -/
structure Entry.Alike (v : Sight) (entry entry' : Entry) : Prop where
  action : entry'.action = entry.action
  after : entry.after.Alike v entry'.after

/-- A pass goes on alike from both states. -/
structure PassState.Alike (v : Sight) (s s' : PassState) : Prop where
  world : s.world.Alike v s'.world
  pool : s'.pool = s.pool
  owned : ∀ name ∈ v.names, s'.owned name = s.owned name
  rs : v.rollout s.rs s'.rs
  rolloutHalted : s'.rolloutHalted = s.rolloutHalted
  maxUnavail : s'.maxUnavail = s.maxUnavail
  issued : v.traced → s'.issued = s.issued
  log : v.traced → List.Forall₂ (Entry.Alike v) s.log s'.log

/-- The surroundings fail alike and show alike clusters of what is alike. -/
structure Env.Alike (v : Sight) (env env' : Env) : Prop where
  now : env'.now = env.now
  fails : env'.fails = env.fails
  view : ∀ {c c' : Cluster} call, c.Alike v c' →
    (env.view call c).Alike v (env'.view call c')

section Worlds

variable {v : Sight} {w w' : World} {name : String}

theorem World.Alike.putDrain
    (alike : w.Alike v w') (drain : Option DrainStatus) :
    (w.putDrain name drain).Alike v (w'.putDrain name drain) := by
  refine ⟨alike.api, fun other member => ?_, alike.cordoned⟩
  rw [World.putDrain_drains, World.putDrain_drains, alike.drains other member]

theorem World.Alike.putBootcNode
    (alike : w.Alike v w') (bn : Option BootcNode) :
    (w.putBootcNode name bn).Alike v (w'.putBootcNode name bn) := by
  refine ⟨{ alike.api with bootcNode := fun other member => ?_ },
    alike.drains, alike.cordoned⟩
  rw [World.putBootcNode_bootcNode, World.putBootcNode_bootcNode,
    alike.api.bootcNode other member]

theorem World.Alike.putNode
    (alike : w.Alike v w') (seen : name ∈ v.names) (node : Node) :
    (w.putNode name node).Alike v (w'.putNode name node) := by
  refine ⟨{ alike.api with node := fun other member => ?_ },
    alike.drains, fun other member => ?_⟩
  · rw [World.putNode_node, World.putNode_node, alike.api.node other member]
  · unfold World.putNode
    dsimp only
    rw [alike.api.node name seen, alike.cordoned name seen,
      Function.update_apply, Function.update_apply,
      alike.cordoned other member]

theorem World.Alike.putNodeClaim
    (alike : w.Alike v w') (annotated : v.annotated) (claim : NodeClaim) :
    (w.putNodeClaim name claim).Alike v (w'.putNodeClaim name claim) := by
  have same : (w'.putNodeClaim name claim).api.nodeClaim =
      (w.putNodeClaim name claim).api.nodeClaim := by
    unfold World.putNodeClaim
    dsimp only
    rw [alike.api.annotations annotated]
  exact ⟨{ alike.api with
      claim := fun other => by rw [same]
      annotations := fun _ => same },
    alike.drains, alike.cordoned⟩

theorem World.Alike.putPool
    (alike : w.Alike v w') (pool : Option BootcNodePool) :
    (w.putPool name pool).Alike v (w'.putPool name pool) := by
  refine ⟨{ alike.api with pool := ?_ }, alike.drains, alike.cordoned⟩
  unfold World.putPool
  dsimp only
  rw [alike.api.pool]

end Worlds

section States

variable {v : Sight} {s s' : PassState} {name : String}

theorem PassState.Alike.perform
    (alike : s.Alike v s') (action : Action) {w w' : World}
    (worlds : w.Alike v w') :
    (s.perform action w).Alike v (s'.perform action w') :=
  { alike with
    world := worlds
    log := fun traced => List.rel_append (alike.log traced)
      (.cons ⟨rfl, worlds⟩ .nil) }

theorem PassState.Alike.setOwned
    (alike : s.Alike v s') (bn : Option BootcNode) :
    (s.setOwned name bn).Alike v (s'.setOwned name bn) := by
  refine { alike with owned := fun other member => ?_ }
  unfold PassState.setOwned
  dsimp only
  rw [Function.update_apply, Function.update_apply, alike.owned other member]

theorem PassState.Alike.issue (alike : s.Alike v s') (call : Call) :
    PassState.Alike v { s with issued := s.issued ++ [call] }
      { s' with issued := s'.issued ++ [call] } :=
  { alike with
    issued := fun traced => by
      dsimp only
      rw [alike.issued traced] }

end States

section Requests

variable {v : Sight} {env env' : Env} {α : Type}
  (alike : env.Alike v env') {name : String}

include alike

theorem alike_send (call : Call) :
    Relates (PassState.Alike v) Eq (Pass.send env call)
      (Pass.send env' call) := by
  unfold Pass.send
  rw [alike.fails]
  cases env.fails call with
  | none => exact .ret rfl
  | some message => exact .fail _

theorem alike_sendWrite (call : Call) :
    Relates (PassState.Alike v) Eq (Pass.sendWrite env call)
      (Pass.sendWrite env' call) :=
  Relates.bind (.update fun _ _ states => states.issue call) fun _ =>
    alike_send alike call

theorem alike_query
    {call : Call} {look : Cluster → α}
    (agree : ∀ {c c' : Cluster}, c.Alike v c' → look c = look c') :
    Relates (PassState.Alike v) Eq (Pass.query env call look)
      (Pass.query env' call look) :=
  (alike_send alike call).bind fun _ =>
    .read fun _ _ states => agree (alike.view call states.world.api)

theorem alike_patchBootcNode
    (seen : name ∈ v.names) (call : Call) (base modified : BootcNode) :
    Relates (PassState.Alike v) Eq
      (Pass.patchBootcNode env call name base modified)
      (Pass.patchBootcNode env' call name base modified) := by
  refine (alike_sendWrite alike call).bind fun _ => ?_
  refine Relates.bind (.read fun _ _ states =>
    (states.world.api.bootcNode name seen).symm) fun found => ?_
  cases found with
  | none => exact .fail _
  | some server =>
      exact .update fun _ _ states =>
        (states.perform _ (states.world.putBootcNode _)).setOwned _

theorem alike_patchNode
    (seen : name ∈ v.names) (call : Call) (node modified : Node) :
    Relates (PassState.Alike v) Eq
      (Pass.patchNode env call name node modified)
      (Pass.patchNode env' call name node modified) := by
  refine (alike_sendWrite alike call).bind fun _ => ?_
  refine Relates.bind (.read fun _ _ states =>
    (states.world.api.node name seen).symm) fun found => ?_
  cases found with
  | none => exact .fail _
  | some server =>
      refine .ite (.fail _) (Relates.bind ?_ fun _ => .ret rfl)
      exact .update fun _ _ states =>
        states.perform _ (states.world.putNode seen _)

theorem alike_createBootcNode
    (seen : name ∈ v.names) (call : Call) (bn : BootcNode) :
    Relates (PassState.Alike v) Eq (Pass.createBootcNode env call name bn)
      (Pass.createBootcNode env' call name bn) := by
  refine (alike_sendWrite alike call).bind fun _ => ?_
  refine Relates.bind (.read fun _ _ states =>
    (states.world.api.bootcNode name seen).symm) fun found => ?_
  cases found with
  | some server => exact .fail _
  | none =>
      exact .update fun _ _ states =>
        states.perform _ (states.world.putBootcNode _)

theorem alike_approveReboot (seen : name ∈ v.names) (bn : BootcNode) :
    Relates (PassState.Alike v) Eq (approveReboot env name bn)
      (approveReboot env' name bn) := by
  have forget : Relates (PassState.Alike v) Eq (forgetDrain name)
      (forgetDrain name) :=
    .update fun _ _ states => states.perform _ (states.world.putDrain none)
  refine (alike_sendWrite alike _).attempt.bind fun result => ?_
  cases result with
  | error err => exact forget.bind fun _ => .fail _
  | ok _ =>
      refine Relates.bind (.read fun _ _ states =>
        (states.world.api.bootcNode name seen).symm) fun found => ?_
      cases found with
      | none => exact forget.bind fun _ => .fail _
      | some server =>
          exact .update fun _ _ states => (states.perform _
            ((states.world.putDrain none).putBootcNode _)).setOwned _

theorem alike_node (steady : v.Steady) (seen : name ∈ v.names) :
    NodeSimulation env env' (PassState.Alike v) (fun _ => True)
      (fun _ => True) name where
  now := alike.now
  pool := .read fun _ _ states => ⟨states.pool.symm, trivial⟩
  owned := .read fun _ _ states => (states.owned name seen).symm
  drain := .read fun _ _ states => (states.world.drains name seen).symm
  setOwned bn := .update fun _ _ states => states.setOwned bn
  putDrain action drain := .update fun _ _ states =>
    states.perform action (states.world.putDrain drain)
  note action := .update fun _ _ states => states.perform action states.world
  queryNode _ := alike_query alike fun clusters =>
    (clusters.node name seen).symm
  patchNode := alike_patchNode alike seen
  patchBootcNode call base modified _ :=
    alike_patchBootcNode alike seen call base modified
  createBootcNode call bn _ := alike_createBootcNode alike seen call bn
  deleteBootcNode call := (alike_sendWrite alike call).bind fun _ =>
    .update fun _ _ states => states.perform _ (states.world.putBootcNode none)
  approve := alike_approveReboot alike seen
  release := .update fun _ _ states =>
    { states with rs := steady.release states.rs }
  requeue := .update fun _ _ states =>
    { states with rs := steady.requeue _ states.rs }

theorem alike_claims (annotated : v.annotated) :
    ClaimSimulation env env' (PassState.Alike v) where
  lookup call node := by
    refine .ite (alike_query alike fun clusters => ?_) (.ret rfl)
    unfold lookupNodeClaim
    rw [clusters.nodeClaimCRD, clusters.annotations annotated]
  patchNodeClaim call claimName claim modified := by
    refine (alike_sendWrite alike call).bind fun _ => ?_
    refine Relates.bind (.read fun _ _ states => ?_) fun found => ?_
    · exact (congrFun (states.world.api.annotations annotated)
        claimName).symm
    cases found with
    | none => exact .fail _
    | some server =>
        exact .update fun _ _ states =>
          states.perform _ (states.world.putNodeClaim annotated _)

end Requests

/-! ## Whole passes -/

theorem alike_pass
    {v : Sight} {env env' : Env} (alike : env.Alike v env')
    (r : BootcNodePoolReconciler) (order : env'.order = env.order)
    (resolve : env'.resolve = env.resolve) (names : v.names = Set.univ)
    (annotated : v.annotated) (rollout : v.rollout = Eq) :
    PassSimulation r env env' (PassState.Alike v) (fun _ => True)
      (fun _ => True) := by
  have all (name : String) : name ∈ v.names := by
    rw [names]
    exact Set.mem_univ name
  have steady : v.Steady := by
    constructor
    · intro rs rs' same
      rw [rollout] at same ⊢
      rw [same]
    · intro rs rs' delay same
      rw [rollout] at same ⊢
      rw [same]
  have memory {s s' : PassState} (states : s.Alike v s') :
      s'.memory = s.memory := by
    have owned : s'.owned = s.owned :=
      funext fun name => states.owned name (all name)
    have rs : s.rs = s'.rs := by
      have same := states.rs
      rw [rollout] at same
      exact same
    unfold PassState.memory
    rw [states.pool, owned, rs, states.rolloutHalted, states.maxUnavail]
  exact {
    order := order
    resolve := resolve
    node := fun name => alike_node alike steady (all name)
    claims := alike_claims alike annotated
    spec := fun _ _ _ _ => trivial
    remember := fun part => .read fun _ _ states => by rw [memory states]
    revise := fun change _ => .update fun s s' states => by
      have same := memory states
      exact {
        world := states.world
        pool := by
          dsimp only [PassState.withMemory]
          rw [same]
        owned := fun _ _ => by
          dsimp only [PassState.withMemory]
          rw [same]
        rs := by
          dsimp only [PassState.withMemory]
          rw [same, rollout]
        rolloutHalted := by
          dsimp only [PassState.withMemory]
          rw [same]
        maxUnavail := by
          dsimp only [PassState.withMemory]
          rw [same]
        issued := states.issued
        log := states.log }
    drains := .read fun _ _ states =>
      funext fun name => (states.world.drains name (all name)).symm
    listNodes := fun selector => alike_query alike fun clusters =>
      funext fun name => by rw [clusters.node name (all name)]
    listBootcNodes := alike_query alike fun clusters =>
      funext fun name => (clusters.bootcNode name (all name)).symm
    updatePool := fun request pool => by
      refine (alike_sendWrite alike _).bind fun _ => ?_
      refine Relates.bind (.read fun _ _ states =>
        congrFun states.world.api.pool.symm request) fun found => ?_
      cases found with
      | none => exact .fail _
      | some server =>
          exact .update fun _ _ states =>
            states.perform _ (states.world.putPool _)
    updatePoolStatus := fun request pool => by
      refine (alike_sendWrite alike _).bind fun _ => ?_
      refine Relates.bind (.read fun _ _ states =>
        congrFun states.world.api.pool.symm request) fun found => ?_
      cases found with
      | none => exact .fail _
      | some server =>
          exact .update fun _ _ states =>
            states.perform _ (states.world.putPool _) }

end BootcOperator
