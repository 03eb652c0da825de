import BootcOperator.Effects.Alike
import BootcOperator.Effects.Reconcile
import BootcOperator.Effects.Tables
import BootcOperator.Lib.Machine

/-!
# Isolation of pull secrets

`fetchPullSecretData` is the only reader of Secrets, and it looks at the
namespace before it reads.  Two passes that differ in Secrets of other
namespaces therefore run in lockstep, and a pass gets to the BootcNodes only
with a reference that it may read.
-/

namespace BootcOperator

open Program BootcNodePoolReconciler

variable {w : World} {s : PassState}

/-! ## Secrets that are out of sight -/

/-- The clusters differ only in Secrets of namespaces that are not listed. -/
structure SameButSecrets (allowed : List String) (c c' : Cluster) : Prop where
  others : c' = { c with secret := c'.secret }
  listed : ∀ ns ∈ allowed, c'.secret ns = c.secret ns

/-- The worlds differ at most in Secrets outside `allowed`. -/
structure World.SameButSecrets (allowed : List String) (w w' : World) :
    Prop where
  api : BootcOperator.SameButSecrets allowed w.api w'.api
  drains : w'.drains = w.drains
  cordoned : w'.cordoned = w.cordoned

/-- The surroundings of the two passes: they agree, and the snapshots that
they serve of clusters which differ in such Secrets differ in them only. -/
structure SameSurroundings (allowed : List String) (env env' : Env) :
    Prop where
  now : env'.now = env.now
  fails : env'.fails = env.fails
  order : env'.order = env.order
  resolve : env'.resolve = env.resolve
  view : ∀ {c c' : Cluster} call, SameButSecrets allowed c c' →
    SameButSecrets allowed (env.view call c) (env'.view call c')

/-- All of the state but the Secrets of other namespaces. -/
def secretSight (allowed : List String) : Sight :=
  { names := Set.univ
    namespaces := {ns | ns ∈ allowed}
    annotated := True
    traced := True
    rollout := Eq }

section Sight

variable {allowed : List String}

theorem sameButSecrets_iff {c c' : Cluster} :
    SameButSecrets allowed c c' ↔ c.Alike (secretSight allowed) c' := by
  constructor
  · intro same
    have others := same.others
    exact {
      node := fun name _ => by rw [others]
      bootcNode := fun name _ => by rw [others]
      claim := fun name => by rw [others]
      annotations := fun _ => by rw [others]
      pool := by rw [others]
      secret := same.listed
      nodeClaimCRD := by rw [others] }
  · intro alike
    refine ⟨?_, alike.secret⟩
    have node : c'.node = c.node :=
      funext fun name => alike.node name (Set.mem_univ name)
    have bootcNode : c'.bootcNode = c.bootcNode :=
      funext fun name => alike.bootcNode name (Set.mem_univ name)
    rw [← node, ← bootcNode, ← alike.annotations trivial, ← alike.pool,
      ← alike.nodeClaimCRD]

theorem World.sameButSecrets_iff {w' : World} :
    w.SameButSecrets allowed w' ↔ w.Alike (secretSight allowed) w' := by
  constructor
  · intro same
    exact ⟨BootcOperator.sameButSecrets_iff.mp same.api,
      fun name _ => congrFun same.drains name,
      fun name _ => congrFun same.cordoned name⟩
  · intro alike
    exact ⟨BootcOperator.sameButSecrets_iff.mpr alike.api,
      funext fun name => alike.drains name (Set.mem_univ name),
      funext fun name => alike.cordoned name (Set.mem_univ name)⟩

theorem SameSurroundings.alike
    {env env' : Env} (same : SameSurroundings allowed env env') :
    env.Alike (secretSight allowed) env' where
  now := same.now
  fails := same.fails
  view call clusters :=
    sameButSecrets_iff.mp (same.view call (sameButSecrets_iff.mpr clusters))

end Sight

section Lockstep

variable {r : BootcNodePoolReconciler} {env env' : Env}
  (same : SameSurroundings r.pullSecretNamespaces env env')

include same

theorem alike_fetchPullSecretData (pool : BootcNodePool) :
    Relates (PassState.Alike (secretSight r.pullSecretNamespaces)) Eq
      (r.fetchPullSecretData env pool) (r.fetchPullSecretData env' pool) := by
  unfold fetchPullSecretData
  cases pool.spec.pullSecretRef with
  | none => exact .ret rfl
  | some ref =>
      dsimp only
      by_cases member : ref.secretNamespace ∈ r.pullSecretNamespaces
      · rw [if_neg (not_not.mpr member), if_neg (not_not.mpr member)]
        have query : Relates
            (PassState.Alike (secretSight r.pullSecretNamespaces)) Eq
            (Pass.query env .getSecret
              (·.secret ref.secretNamespace ref.name))
            (Pass.query env' .getSecret
              (·.secret ref.secretNamespace ref.name)) :=
          alike_query same.alike fun clusters =>
            congrFun (clusters.secret _ member).symm ref.name
        refine (Relates.mapError (query.bind fun found => ?_)).bind
          fun secret => ?_
        · cases found with
          | none => exact .fail _
          | some secret => exact .ret rfl
        · cases secret.data.lookup dockerConfigJsonKey with
          | none => exact .fail _
          | some data => exact .ret rfl
      · rw [if_pos member, if_pos member]
        exact .fail _

theorem alike_reconcile (request : String) :
    Relates (PassState.Alike (secretSight r.pullSecretNamespaces)) Eq
      (r.reconcile env request) (r.reconcile env' request) := by
  have sim := alike_pass same.alike r same.order same.resolve rfl trivial rfl
  have live : Relates
      (PassState.Alike (secretSight r.pullSecretNamespaces)) Eq
      (r.reconcileLive env request) (r.reconcileLive env' request) := by
    refine (sim.remember (·.pool)).bind fun pool => ?_
    refine (alike_fetchPullSecretData same pool).attempt.bind fun result => ?_
    cases result with
    | error err => exact relates_reportDegraded sim _ _
    | ok secretData =>
        exact relates_reconcileImage sim (fun _ _ => trivial)
          (fun _ _ _ _ _ => trivial) secretData
  have query : Relates
      (PassState.Alike (secretSight r.pullSecretNamespaces)) Eq
      (Pass.query env .getPool (·.pool request))
      (Pass.query env' .getPool (·.pool request)) :=
    alike_query same.alike fun clusters =>
      congrFun clusters.pool.symm request
  refine (Relates.attempt (query.bind fun found => ?_)).bind fun result => ?_
  · cases found with
    | none => exact .fail _
    | some pool => exact .ret rfl
  · cases result with
    | error err => exact .ite (.ret rfl) (.fail _)
    | ok pool => exact relates_reconcilePool sim trivial live

end Lockstep

/-! ## What a pass does with the credentials -/

/-- A resolver that answers with the credentials it is given. -/
def echo (credentials : Option String) : Except String String :=
  match credentials with
  | some data => .ok data
  | none => .error "anonymous"

/-- The references and credentials with which a pass calls the resolver: the
log shows them when the resolver echoes them. -/
def resolverCalls (r : BootcNodePoolReconciler) (env : Env)
    (request : String) (w : World) : List (String × Except String String) :=
  (r.reconcile { env with resolve := fun _ => echo } request
    (.start w)).2.log.filterMap fun entry =>
      match entry.action with
      | .resolve ref answer => some (ref, answer)
      | _ => none

/-- Two passes have the same result, send the same writes and leave the same
objects behind after each action. -/
structure SameWrites (allowed : List String)
    (first second : Except ApiError Duration × PassState) : Prop where
  result : second.1 = first.1
  issued : second.2.issued = first.2.issued
  log : List.Forall₂
    (fun entry entry' => entry'.action = entry.action ∧
      entry.after.SameButSecrets allowed entry'.after)
    first.2.log second.2.log
  world : first.2.world.SameButSecrets allowed second.2.world

theorem start_alike
    {allowed : List String} {w' : World} (worlds : w.SameButSecrets allowed w') :
    (PassState.start w).Alike (secretSight allowed) (PassState.start w') where
  world := World.sameButSecrets_iff.mp worlds
  pool := rfl
  owned _ _ := rfl
  rs := rfl
  rolloutHalted := rfl
  maxUnavail := rfl
  issued _ := rfl
  log _ := .nil

section Lockstep

variable {r : BootcNodePoolReconciler} {env env' : Env} {w' : World}
  (same : SameSurroundings r.pullSecretNamespaces env env')
  (worlds : w.SameButSecrets r.pullSecretNamespaces w')

include same worlds

theorem sameWrites_reconcile (request : String) :
    SameWrites r.pullSecretNamespaces (r.reconcile env request (.start w))
      (r.reconcile env' request (.start w')) := by
  have alike := alike_reconcile same request _ _ (start_alike worlds)
  refine ⟨alike.results.symm, alike.states.issued trivial, ?_,
    World.sameButSecrets_iff.mpr alike.states.world⟩
  exact (alike.states.log trivial).imp fun entry entry' isAlike =>
    ⟨isAlike.action, World.sameButSecrets_iff.mpr isAlike.after⟩

theorem resolverCalls_eq (request : String) :
    resolverCalls r env' request w' = resolverCalls r env request w := by
  have echoing : SameSurroundings r.pullSecretNamespaces
      { env with resolve := fun _ => echo }
      { env' with resolve := fun _ => echo } :=
    ⟨same.now, same.fails, same.order, rfl, same.view⟩
  have entries := (sameWrites_reconcile echoing worlds request).log
  unfold resolverCalls
  generalize (r.reconcile { env with resolve := fun _ => echo } request
    (.start w)).2.log = log at entries ⊢
  generalize (r.reconcile { env' with resolve := fun _ => echo } request
    (.start w')).2.log = log' at entries ⊢
  induction entries with
  | nil => rfl
  | cons isAlike _ ih =>
      rw [List.filterMap_cons, List.filterMap_cons, isAlike.1,
        ih]

end Lockstep

/-! ## References in BootcNodes -/

/-- The reference, if there is one, is to an allowed namespace. -/
def AllowedRef (allowed : List String) (ref : Option PullSecretRef) : Prop :=
  ∀ secretRef, ref = some secretRef → secretRef.secretNamespace ∈ allowed

/-- Every BootcNode refers to Secrets of allowed namespaces. -/
def RefsAllowed (allowed : List String) (w : World) : Prop :=
  ∀ name bn, w.api.bootcNode name = some bn →
    AllowedRef allowed bn.spec.pullSecretRef

/-- After every action of a pass, and `knows` holds of the reference of its
pool. -/
structure Guarded (allowed : List String)
    (knows : Option PullSecretRef → Prop) (s : PassState) : Prop where
  stored : RefsAllowed allowed s.world
  logged : ∀ entry ∈ s.log, RefsAllowed allowed entry.after
  known : knows s.pool.spec.pullSecretRef

section Guarded

variable {allowed : List String} {knows : Option PullSecretRef → Prop}

variable (env : Env) (call : Call) (name : String)

theorem Guarded.perform
    (guarded : Guarded allowed knows s) (action : Action)
    (refs : RefsAllowed allowed w) :
    Guarded allowed knows (s.perform action w) := by
  refine ⟨refs, fun entry member => ?_, guarded.known⟩
  rcases List.mem_append.mp member with earlier | last
  · exact guarded.logged entry earlier
  · rw [List.mem_singleton.mp last]
    exact refs

theorem Guarded.setOwned
    (guarded : Guarded allowed knows s) (name : String) (bn : Option BootcNode) :
    Guarded allowed knows (s.setOwned name bn) :=
  ⟨guarded.stored, guarded.logged, guarded.known⟩

theorem RefsAllowed.putBootcNode
    (refs : RefsAllowed allowed w) {bn : Option BootcNode}
    (written : ∀ stored, bn = some stored →
      AllowedRef allowed stored.spec.pullSecretRef) (name : String) :
    RefsAllowed allowed (w.putBootcNode name bn) := by
  intro other stored isStored
  rw [World.putBootcNode_bootcNode] at isStored
  split_ifs at isStored
  · exact written stored isStored
  · exact refs other stored isStored

/-- A patch leaves the reference alone or writes an allowed one. -/
theorem allowedRef_merge
    {base modified server : BootcNode}
    (kept : modified.spec.pullSecretRef = base.spec.pullSecretRef ∨
      AllowedRef allowed modified.spec.pullSecretRef)
    (stored : AllowedRef allowed server.spec.pullSecretRef) :
    AllowedRef allowed (base.merge modified server).spec.pullSecretRef := by
  have merged : (base.merge modified server).spec.pullSecretRef =
      mergeField base.spec.pullSecretRef modified.spec.pullSecretRef
        server.spec.pullSecretRef := rfl
  rw [merged]
  unfold mergeField
  split_ifs with unchanged
  · exact stored
  · rcases kept with same | isAllowed
    · exact absurd same.symm unchanged
    · exact isAllowed

theorem guarded_send :
    Relates (Keeps (Guarded allowed knows)) Eq (Pass.send env call)
      (Pass.send env call) := by
  unfold Pass.send
  cases env.fails call with
  | none => exact .ret rfl
  | some message => exact .fail _

theorem guarded_sendWrite :
    Relates (Keeps (Guarded allowed knows)) Eq (Pass.sendWrite env call)
      (Pass.sendWrite env call) :=
  (relates_of_keeps fun _ guarded =>
    ⟨guarded.stored, guarded.logged, guarded.known⟩).bind fun _ =>
      guarded_send env call

theorem guarded_query {α : Type} (look : Cluster → α) :
    Relates (Keeps (Guarded allowed knows)) Eq (Pass.query env call look)
      (Pass.query env call look) :=
  (guarded_send env call).bind fun _ =>
    relates_of_keeps fun _ guarded => guarded

/-- A stored BootcNode has an allowed reference. -/
theorem guarded_stored :
    Relates (Keeps (Guarded allowed knows))
      (fun found found' => found = found' ∧ ∀ bn, found = some bn →
        AllowedRef allowed bn.spec.pullSecretRef)
      (read fun s => s.world.api.bootcNode name : Pass _)
      (read fun s => s.world.api.bootcNode name) := by
  refine .read ?_
  rintro s _ ⟨rfl, guarded⟩
  exact ⟨rfl, guarded.stored name⟩

theorem guarded_patchBootcNode
    (base modified : BootcNode)
    (kept : modified.spec.pullSecretRef = base.spec.pullSecretRef ∨
      AllowedRef allowed modified.spec.pullSecretRef) :
    Relates (Keeps (Guarded allowed knows)) Eq
      (Pass.patchBootcNode env call name base modified)
      (Pass.patchBootcNode env call name base modified) := by
  refine (guarded_sendWrite env call).bind fun _ => ?_
  refine (guarded_stored name).bindOf ?_
  rintro found _ ⟨rfl, stored⟩
  cases found with
  | none => exact .fail _
  | some server =>
      refine relates_of_keeps fun s guarded => ?_
      refine (guarded.perform _ (guarded.stored.putBootcNode ?_ name)).setOwned
        name _
      rintro _ ⟨⟩
      exact allowedRef_merge kept (stored server rfl)

theorem guarded_createBootcNode
    (bn : BootcNode) (isAllowed : AllowedRef allowed bn.spec.pullSecretRef) :
    Relates (Keeps (Guarded allowed knows)) Eq
      (Pass.createBootcNode env call name bn)
      (Pass.createBootcNode env call name bn) := by
  refine (guarded_sendWrite env call).bind fun _ => ?_
  refine Relates.bind (relates_of_keeps fun _ guarded => guarded)
    fun found => ?_
  cases found with
  | some server => exact .fail _
  | none =>
      refine relates_of_keeps fun s guarded => ?_
      refine guarded.perform _ (guarded.stored.putBootcNode ?_ name)
      rintro _ ⟨⟩
      exact isAllowed

theorem guarded_approveReboot (bn : BootcNode) :
    Relates (Keeps (Guarded allowed knows)) Eq (approveReboot env name bn)
      (approveReboot env name bn) := by
  have forget : Relates (Keeps (Guarded allowed knows)) Eq (forgetDrain name)
      (forgetDrain name) :=
    relates_of_keeps fun _ guarded => guarded.perform _ guarded.stored
  refine (guarded_sendWrite env _).attempt.bind fun result => ?_
  cases result with
  | error err => exact forget.bind fun _ => .fail _
  | ok _ =>
      refine (guarded_stored name).bindOf ?_
      rintro found _ ⟨rfl, stored⟩
      cases found with
      | none => exact forget.bind fun _ => .fail _
      | some server =>
          refine relates_of_keeps fun s guarded => ?_
          have refs : RefsAllowed allowed (s.world.putDrain name none) :=
            guarded.stored
          refine (guarded.perform _ (refs.putBootcNode ?_ name)).setOwned
            name _
          rintro _ ⟨⟩
          exact allowedRef_merge (.inl rfl) (stored server rfl)

theorem guarded_node :
    NodeSimulation env env (Keeps (Guarded allowed knows))
      (fun pool => knows pool.spec.pullSecretRef) (AllowedRef allowed)
      name where
  now := rfl
  pool := .read fun _ _ ⟨same, guarded⟩ => ⟨same ▸ rfl, guarded.known⟩
  owned := relates_of_keeps fun _ guarded => guarded
  drain := relates_of_keeps fun _ guarded => guarded
  setOwned bn := relates_of_keeps fun _ guarded => guarded.setOwned name bn
  putDrain action drain := relates_of_keeps fun _ guarded =>
    guarded.perform action guarded.stored
  note action := relates_of_keeps fun _ guarded =>
    guarded.perform action guarded.stored
  queryNode call := guarded_query env call _
  patchNode call node modified := by
    refine (guarded_sendWrite env call).bind fun _ => ?_
    refine Relates.bind (relates_of_keeps fun _ guarded => guarded)
      fun found => ?_
    cases found with
    | none => exact .fail _
    | some server =>
        refine .ite (.fail _) (Relates.bind ?_ fun _ => .ret rfl)
        exact relates_of_keeps fun _ guarded =>
          guarded.perform _ guarded.stored
  patchBootcNode call base modified kept :=
    guarded_patchBootcNode env call name base modified kept
  createBootcNode call bn isAllowed :=
    guarded_createBootcNode env call name bn isAllowed
  deleteBootcNode call := by
    refine (guarded_sendWrite env call).bind fun _ => ?_
    refine relates_of_keeps fun _ guarded =>
      guarded.perform _ (guarded.stored.putBootcNode ?_ name)
    rintro _ ⟨⟩
  approve := guarded_approveReboot env name
  release := relates_of_keeps fun _ guarded =>
    ⟨guarded.stored, guarded.logged, guarded.known⟩
  requeue := relates_of_keeps fun _ guarded =>
    ⟨guarded.stored, guarded.logged, guarded.known⟩

theorem guarded_claims :
    ClaimSimulation env env (Keeps (Guarded allowed knows)) where
  lookup call node := .ite (guarded_query env call _) (.ret rfl)
  patchNodeClaim call claimName claim modified := by
    refine (guarded_sendWrite env call).bind fun _ => ?_
    refine Relates.bind (relates_of_keeps fun _ guarded => guarded)
      fun found => ?_
    cases found with
    | none => exact .fail _
    | some server =>
        exact relates_of_keeps fun _ guarded =>
          guarded.perform _ guarded.stored

theorem guarded_pass (r : BootcNodePoolReconciler) (env : Env) :
    PassSimulation r env env (Keeps (Guarded allowed knows))
      (fun pool => knows pool.spec.pullSecretRef) (AllowedRef allowed) where
  order := rfl
  resolve := rfl
  node := guarded_node env
  claims := guarded_claims env
  spec pool pool' same isKnown := by rwa [same]
  remember part := relates_of_keeps fun _ guarded => guarded
  revise change keeps := relates_of_keeps fun s guarded =>
    ⟨guarded.stored, guarded.logged, keeps s.memory guarded.known⟩
  drains := relates_of_keeps fun _ guarded => guarded
  listNodes selector := guarded_query env _ _
  listBootcNodes := guarded_query env _ _
  updatePool request pool := by
    refine (guarded_sendWrite env _).bind fun _ => ?_
    refine Relates.bind (relates_of_keeps fun _ guarded => guarded)
      fun found => ?_
    cases found with
    | none => exact .fail _
    | some server =>
        exact relates_of_keeps fun _ guarded =>
          guarded.perform _ guarded.stored
  updatePoolStatus request pool := by
    refine (guarded_sendWrite env _).bind fun _ => ?_
    refine Relates.bind (relates_of_keeps fun _ guarded => guarded)
      fun found => ?_
    cases found with
    | none => exact .fail _
    | some server =>
        exact relates_of_keeps fun _ guarded =>
          guarded.perform _ guarded.stored

end Guarded

section Reconcile

variable (r : BootcNodePoolReconciler) (env : Env) (request : String)

/-- Credentials are only fetched for an allowed reference. -/
theorem allowedRef_of_fetched
    {pool : BootcNodePool} {s' : PassState} {secretData : Option String}
    (fetched : r.fetchPullSecretData env pool s = (.ok secretData, s')) :
    AllowedRef r.pullSecretNamespaces pool.spec.pullSecretRef := by
  intro ref isRef
  unfold fetchPullSecretData at fetched
  rw [isRef] at fetched
  dsimp only at fetched
  by_contra outside
  rw [if_pos outside] at fetched
  cases fetched

/-- A reference is written only behind a successful fetch. -/
theorem guarded_reconcileLive :
    Relates (Keeps (Guarded r.pullSecretNamespaces fun _ => True)) Eq
      (r.reconcileLive env request) (r.reconcileLive env request) := by
  refine relates_of_keeps fun s guarded => ?_
  unfold reconcileLive
  rw [bind_apply, read_apply]
  dsimp only
  rw [bind_apply, attempt_apply, r.fetchPullSecretData_apply env s.pool s]
  rcases fetched : r.fetchPullSecretData env s.pool (.start s.world) with
    ⟨result, s'⟩
  cases result with
  | error err =>
      exact (relates_reportDegraded (guarded_pass r env) _ _).keeps guarded
  | ok secretData =>
      have isAllowed := allowedRef_of_fetched r env fetched
      have kept : ∀ pool secretData resolution,
          AllowedRef r.pullSecretNamespaces pool.spec.pullSecretRef →
          r.resolveTargetDigest env pool secretData = .ok resolution →
          AllowedRef r.pullSecretNamespaces
            resolution.pool.spec.pullSecretRef := by
        intro pool secretData resolution isKnown resolved
        rw [(resolveTargetDigest_keeps resolved).2.2]
        exact isKnown
      have after : Guarded r.pullSecretNamespaces
          (AllowedRef r.pullSecretNamespaces)
          (r.reconcileImage env request s.pool.status secretData s).2 :=
        (relates_reconcileImage (guarded_pass r env)
          (fun _ isKnown => isKnown) kept secretData).keeps
            ⟨guarded.stored, guarded.logged, isAllowed⟩
      exact ⟨after.stored, after.logged, trivial⟩

theorem guarded_reconcile :
    Relates (Keeps (Guarded r.pullSecretNamespaces fun _ => True)) Eq
      (r.reconcile env request) (r.reconcile env request) := by
  refine (Relates.attempt ((guarded_query env _ _).bind fun found => ?_)).bind
    fun result => ?_
  · cases found with
    | none => exact .fail _
    | some pool => exact .ret rfl
  · cases result with
    | error err => exact .ite (.ret rfl) (.fail _)
    | ok pool =>
        exact relates_reconcilePool (guarded_pass r env) trivial
          (guarded_reconcileLive r env request)

/-- Whatever a pass reads, it keeps all references allowed, after each of its
actions. -/
theorem refsAllowed_reconcile (refs : RefsAllowed r.pullSecretNamespaces w) :
    RefsAllowed r.pullSecretNamespaces
        (r.reconcile env request (.start w)).2.world ∧
      ∀ entry ∈ (r.reconcile env request (.start w)).2.log,
        RefsAllowed r.pullSecretNamespaces entry.after := by
  have guarded := (guarded_reconcile r env request).keeps
    (s := .start w) ⟨refs, by simp [PassState.start], trivial⟩
  exact ⟨guarded.stored, guarded.logged⟩

end Reconcile

/-! ## Runs -/

inductive PoolAction where
  | reconcile (env : Env) (request : String)
  /-- users and other actors leave this world behind -/
  | edit (world : World)

/-- `Reconcile`s of pools, and the writes of everyone else. -/
def poolMachine (r : BootcNodePoolReconciler) : Machine World PoolAction where
  step w
    | .reconcile env request =>
        some (r.reconcile env request (.start w)).2.world
    | .edit world => some world

/-- Pools and all other objects may be edited; only the controller creates
BootcNodes and writes their references. -/
def PoolStep (w : World) : PoolAction → Prop
  | .reconcile _ _ => True
  | .edit world => ∀ name bn', world.api.bootcNode name = some bn' →
      ∃ bn, w.api.bootcNode name = some bn ∧
        bn'.spec.pullSecretRef = bn.spec.pullSecretRef

theorem refsAllowed_of_path
    {r : BootcNodePoolReconciler} {start : World} {actions : List PoolAction}
    (empty : ∀ name, start.api.bootcNode name = none)
    (path : (poolMachine r).Path PoolStep start actions w) :
    RefsAllowed r.pullSecretNamespaces w := by
  refine path.invariant (RefsAllowed r.pullSecretNamespaces)
    (fun {w action w'} refs admissible stepped => ?_) ?_
  · cases action with
    | reconcile env request =>
        cases stepped
        exact (refsAllowed_reconcile r env request refs).1
    | edit world =>
        cases stepped
        intro name bn' stored
        obtain ⟨bn, isStored, same⟩ := admissible name bn' stored
        rw [same]
        exact refs name bn isStored
  · intro name bn stored
    rw [empty name] at stored
    cases stored

/-- Secrets outside the allowlist influence neither the credentials that a
`Reconcile` hands to the resolver nor its writes, and in every run no
BootcNode ever refers to such a Secret. -/
theorem pull_secret_isolation (r : BootcNodePoolReconciler) :
    (∀ (env env' : Env) (w w' : World) (request : String),
      SameSurroundings r.pullSecretNamespaces env env' →
      w.SameButSecrets r.pullSecretNamespaces w' →
      resolverCalls r env' request w' = resolverCalls r env request w ∧
        SameWrites r.pullSecretNamespaces
          (r.reconcile env request (.start w))
          (r.reconcile env' request (.start w'))) ∧
    ∀ (start w : World) (actions : List PoolAction),
      (∀ name, start.api.bootcNode name = none) →
      (poolMachine r).Path PoolStep start actions w →
      RefsAllowed r.pullSecretNamespaces w ∧
        ∀ (env : Env) (request : String),
          ∀ entry ∈ (r.reconcile env request (.start w)).2.log,
            RefsAllowed r.pullSecretNamespaces entry.after := by
  refine ⟨fun env env' w w' request same worlds => ?_,
    fun start w actions empty path => ?_⟩
  · exact ⟨resolverCalls_eq same worlds request,
      sameWrites_reconcile same worlds request⟩
  · have refs := refsAllowed_of_path empty path
    exact ⟨refs, fun env request =>
      (refsAllowed_reconcile r env request refs).2⟩

/-! ## Two tenants -/

/-- A pool with a tag takes its credentials from `registry/pull`, and another
tenant may have a Secret of that name. -/
def tenantWorld (tenant : Option Secret) : World :=
  let pool := osPool "os:1"
  let tables : Tables :=
    { nodes := [("n1", plainNode)]
      pools :=
        [("workers",
          { pool with
            spec :=
              { pool.spec with
                pullSecretRef := some ⟨"pull", "registry"⟩ } })] }
  { tables.world with
    api :=
      { tables.world.api with
        secret := fun ns _ =>
          if ns = "registry" then
            some ⟨"Opaque", [(dockerConfigJsonKey, "token")]⟩
          else if ns = "tenant" then tenant
          else none } }

def registryReconciler : BootcNodePoolReconciler :=
  { osReconciler with pullSecretNamespaces := ["registry"] }

def registryEnv : Env :=
  { Env.calm ["n1"] 0 with resolve := fun _ _ => .ok "a" }

theorem sameButSecrets_tenantWorld (tenant tenant' : Option Secret) :
    (tenantWorld tenant).SameButSecrets ["registry"] (tenantWorld tenant') := by
  refine ⟨⟨rfl, fun ns member => ?_⟩, rfl, rfl⟩
  rw [List.mem_singleton.mp member]
  rfl

theorem sameSurroundings_registryEnv :
    SameSurroundings ["registry"] registryEnv registryEnv :=
  ⟨rfl, rfl, rfl, rfl, fun _ same => same⟩

/-- The resolver is called with the token of the registry whatever the other
tenant stores, and the new BootcNode refers to it. -/
theorem pull_secret_isolation_of_tenant :
    resolverCalls registryReconciler registryEnv "workers"
        (tenantWorld (some ⟨"Opaque", [(dockerConfigJsonKey, "stolen")]⟩)) =
      [("os:1", .ok "token")] ∧
    ((registryReconciler.reconcile registryEnv "workers"
      (.start (tenantWorld none))).2.world.api.bootcNode "n1").map
        (·.spec.pullSecretRef) = some (some ⟨"pull", "registry"⟩) ∧
    RefsAllowed ["registry"]
      (registryReconciler.reconcile registryEnv "workers"
        (.start (tenantWorld none))).2.world := by
  obtain ⟨lockstep, runs⟩ := pull_secret_isolation registryReconciler
  have calls : resolverCalls registryReconciler registryEnv "workers"
      (tenantWorld none) = [("os:1", .ok "token")] := rfl
  have created : ((registryReconciler.reconcile registryEnv "workers"
      (.start (tenantWorld none))).2.world.api.bootcNode "n1").map
        (·.spec.pullSecretRef) = some (some ⟨"pull", "registry"⟩) := by
    decide +kernel
  have path : (poolMachine registryReconciler).Path PoolStep
      (tenantWorld none) [.reconcile registryEnv "workers"]
      (registryReconciler.reconcile registryEnv "workers"
        (.start (tenantWorld none))).2.world :=
    .cons trivial rfl (.nil _)
  refine ⟨?_, created, (runs _ _ _ (fun _ => rfl) path).1⟩
  rw [(lockstep registryEnv registryEnv _ _ "workers"
    sameSurroundings_registryEnv (sameButSecrets_tenantWorld none _)).1]
  exact calls

end BootcOperator
