import BootcOperator.Daemon.Charges
import BootcOperator.Effects.BootcNodes
import BootcOperator.Hosts
import BootcOperator.Properties.Provenance
import BootcOperator.Registry.Resolver

/-!
# Where the images on the hosts come from

Users give references to their pools and registries serve digests; from there
an image goes through the status of a pool, the spec of a BootcNode and a
stage operation into the boot entries of a host.  Each part of the system
hands on only what it was given.
-/

namespace BootcOperator

open BootcNodePoolReconciler BootcNodeReconciler

namespace StageOp

variable {P : String → Prop} {s s' : StageOp}

/-- Every stage that was ever spawned is of such an image. -/
def ImagesFrom (P : String → Prop) (s : StageOp) : Prop :=
  ∀ i, i < s.count → P (s.runs i).image

theorem ImagesFrom.setRun
    (images : s.ImagesFrom P) {i : Nat} {run : RunCall}
    (same : run.image = (s.runs i).image) : (s.setRun i run).ImagesFrom P :=
  (Function.forall_update_iff s.runs fun j run =>
    j < s.count → P run.image).mpr
      ⟨fun acquired => same ▸ images i acquired, fun j _ => images j⟩

theorem ImagesFrom.step
    (images : s.ImagesFrom P) {a : Action}
    (acquires : ∀ image, a = .acquire image → P image)
    (stepped : s.step a = some s') : s'.ImagesFrom P := by
  cases a with
  | takeErr => cases stepped; exact images
  | reset => cases stepped; exact images
  | isInFlight _ => cases stepped; exact images
  | acquire image =>
      cases stepped
      intro i acquired
      have earlier : i < s.count + 1 := acquired
      simp only [acquire]
      split
      · exact acquires image rfl
      · exact images i (by omega)
  | publish i =>
      simp only [StageOp.step] at stepped
      split at stepped
      · split at stepped
        · cases stepped
          unfold publish
          split
          · exact images.setRun rfl
          · exact images.setRun rfl
        · cases stepped
      · cases stepped
  | receive =>
      simp only [StageOp.step] at stepped
      split at stepped
      · cases stepped
        exact images
      · cases stepped
  | _ =>
      simp only [StageOp.step] at stepped
      split at stepped
      · cases stepped
        exact images.setRun rfl
      · cases stepped

end StageOp

/-- A daemon stages desired images only. -/
theorem imagesFrom_reconcile
    {P : String → Prop} (lib : ReferenceLibrary) (input : ReconcileInput)
    {daemon : BootcNodeReconciler} {stored : Option BootcNode}
    (images : daemon.inflight.ImagesFrom P)
    (desired : ∀ bn, stored = some bn → P bn.spec.desiredImage) :
    (daemon.reconcile lib input stored).reconciler.inflight.ImagesFrom P := by
  refine (path_sections lib input daemon stored).invariant _
    (fun images warranted stepped => images.step (fun image isAcquire => ?_)
      stepped) images
  obtain ⟨bn, isBn, rfl⟩ :=
    Option.map_eq_some_iff.mp (warranted image isAcquire).1
  exact desired bn isBn

/-! ## References, digests and images -/

/-- What the operator is given: the references of the pools, and what the
registries serve. -/
structure Supply (Config : Type) where
  library : RegistryLibrary Config
  resolver : GGCRResolver
  Allowed : String → Prop
  Serves : ManifestRequest Config → String → Prop

namespace Supply

variable {Config : Type} (supply : Supply Config) (refs : ReferenceLibrary)

/-- The digest belongs to an allowed reference. -/
def Digest (digest : String) : Prop :=
  ∃ ref, supply.Allowed ref ∧ (refs.digestOf ref = some digest ∨
    ∃ auth, GGCRResolver.Answers supply.library supply.resolver supply.Serves
      ref auth digest)

/-- The repository of an allowed reference with such a digest. -/
def Image (image : String) : Prop :=
  ∃ ref named digest, supply.Allowed ref ∧
    refs.parseNamed ref = .ok named ∧ supply.Digest refs digest ∧
    image = named.trimmed ++ "@" ++ digest

/-- The reference of the pool is supplied, and so is its digest. -/
structure Pool (pool : BootcNodePool) : Prop where
  allowed : supply.Allowed pool.spec.imageRef
  target : pool.status.targetDigest = "" ∨
    supply.Digest refs pool.status.targetDigest

/-- All that pools and BootcNodes ask for is supplied. -/
structure Covers (w : World) : Prop where
  pool : ∀ request pool, w.api.pool request = some pool →
    supply.Pool refs pool
  image : ∀ name bn, w.api.bootcNode name = some bn →
    supply.Image refs bn.spec.desiredImage

/-- The resolver of a `Reconcile` asks the registries. -/
def Resolves (env : Env) : Prop :=
  ∃ registries : Registries Config,
    (∀ request digest, registries request = .ok digest →
      supply.Serves request digest) ∧
    ∀ ref auth digest, env.resolve ref auth = .ok digest →
      (supply.resolver.resolve supply.library registries ref auth).2 =
        .ok digest

variable {supply} {refs} {w w' : World}

theorem Covers.effect
    {c : PassContext} {budget : Option Int} {action : Action}
    (covers : supply.Covers refs w) (effect : Effect c budget action w w')
    (pool : supply.Pool refs c.pool)
    (image : c.HasTarget → supply.Image refs c.desiredImage) :
    supply.Covers refs w' := by
  refine ⟨fun request stored isStored => ?_, fun name bn isBn => ?_⟩
  · have put : ∀ {new : Option BootcNodePool},
        (∀ pool, new = some pool → supply.Pool refs pool) →
        (w.putPool c.request new).api.pool request = some stored →
          supply.Pool refs stored := by
      intro new supplied isNew
      rw [World.putPool_pool] at isNew
      split_ifs at isNew
      · exact supplied stored isNew
      · exact covers.pool request stored isNew
    cases effect with
    | updatePool isOld _ _ spec status _ =>
        refine put (fun pool same => ?_) isStored
        cases same
        obtain ⟨allowed, target⟩ := covers.pool _ _ isOld
        exact ⟨spec ▸ allowed, status ▸ target⟩
    | releasePool _ _ => exact put (fun _ gone => by cases gone) isStored
    | updatePoolStatus isOld target =>
        refine put (fun pool' same => ?_) isStored
        cases same
        exact ⟨(covers.pool _ _ isOld).allowed, target ▸ pool.target⟩
    | _ => exact covers.pool request stored isStored
  · rcases effect.bootcNode_cases isBn with
      ⟨old, isOld, _, _, same⟩ | ⟨hasTarget, _, _, rfl⟩ |
        ⟨hasTarget, _, _, rfl⟩
    · rw [same]
      exact covers.image name old isOld
    · exact image hasTarget
    · exact image hasTarget

theorem pool_of_settle
    {r : BootcNodePoolReconciler} {env : Env} {pool : BootcNodePool}
    {resolution : Resolution} (given : supply.Pool r.references pool)
    (resolves : supply.Resolves env)
    (settled : r.settle env w pool = some resolution) :
    supply.Pool r.references resolution.pool ∧
      ∃ named, r.references.parseNamed pool.spec.imageRef = .ok named := by
  obtain ⟨secretData, _, resolved⟩ := settle_eq_some settled
  have spec := ((BootcNodePool.SameTarget.refl pool).clearPoolDegradedReason
    env.now poolSecretError).spec
  obtain ⟨named, parsed, outcome⟩ := resolveTargetDigest_cases resolved
  have kept := (resolveTargetDigest_keeps resolved).2.2
  rw [spec] at parsed kept
  refine ⟨⟨kept ▸ given.allowed, ?_⟩, named, parsed⟩
  split at outcome
  · refine .inr ⟨_, given.allowed, outcome.imp (fun digested => ?_)
      fun answered => ⟨secretData, ?_⟩⟩
    · rw [ReferenceLibrary.digestOf, parsed]
      exact digested
    · obtain ⟨registries, serves, asks⟩ := resolves
      have answer := answer_of_resolveTargetDigest resolved answered
      rw [spec] at answer
      exact (GGCRResolver.resolve_spec serves).2 _ (asks _ _ _ answer)
  · rw [outcome, targetDigest_clearPoolDegradedReason]
    exact given.target

theorem Covers.reconcile
    {r : BootcNodePoolReconciler} {env : Env}
    (covers : supply.Covers r.references w) (faithful : env.Faithful w)
    (resolves : supply.Resolves env) (request : String) :
    supply.Covers r.references
      (r.reconcile env request (.start w)).2.world := by
  cases stored : w.api.pool request with
  | none =>
      rw [r.reconcile_of_missing request faithful stored]
      exact covers
  | some pool =>
      have given := covers.pool request pool stored
      have isPool := contextOf_pool r request env stored
      have settledPool_given :
          supply.Pool r.references (r.contextOf env request w).pool := by
        rw [isPool, settledPool]
        cases settled : r.settle env w pool with
        | none => exact given
        | some resolution => exact (pool_of_settle given resolves settled).1
      refine (r.reconcile_invariant request (supply.Covers r.references)
        (fun effect covers => covers.effect effect settledPool_given ?_)
        faithful covers).1
      rintro ⟨resolution, isResolution, nonempty⟩
      rw [contextOf_resolution r request env stored] at isResolution
      obtain ⟨_, named, parsed⟩ := pool_of_settle given resolves isResolution
      have spec := (contextOf_keeps r request env stored).2
      have same : (r.contextOf env request w).pool = resolution.pool := by
        rw [isPool, settledPool, isResolution]
      refine ⟨_, named, _, given.allowed, parsed,
        settledPool_given.target.resolve_left (same ▸ nonempty), ?_⟩
      have isReconciler : (r.contextOf env request w).reconciler = r := rfl
      simp only [PassContext.desiredImage, desiredImageFromPool, isReconciler,
        spec, parsed]

end Supply

/-! ## The boot entries -/

/-- One of the three entries of the host is this one. -/
def HostStatus.Holds (host : HostStatus) (entry : BootEntry) : Prop :=
  host.staged = some entry ∨ host.booted = some entry ∨
    host.rollback = some entry

theorem HostStatus.holds_of_rebooted
    {host : HostStatus} {entry : BootEntry}
    (holds : host.rebooted.Holds entry) : host.Holds entry := by
  unfold rebooted at holds
  split at holds
  · exact holds
  · next staged =>
      rcases holds with gone | isBooted | isRollback
      · cases gone
      · exact .inl (staged.trans isBooted)
      · exact .inr (.inl isRollback)

namespace Hosts

variable {Config : Type} (supply : Supply Config)
  (r : BootcNodePoolReconciler) (deploy : String → BootEntry)

/-- The controller reads what is stored and asks the registries.  Users give
allowed references to their pools and no images to BootcNodes.  The daemons may
read anything, with run calls in between; one that leaves its image staged is a
step of its own. -/
def Given (s : Hosts) : HostAction → Prop
  | .controller env _ => env.Faithful s.world ∧ supply.Resolves env
  | .users change =>
      EditsSpecs s.world (change s.world) ∧
        (∀ request pool, (change s.world).api.pool request = some pool →
          supply.Allowed pool.spec.imageRef) ∧
        ∀ name bn, (change s.world).api.bootcNode name = some bn →
          ∃ old, s.world.api.bootcNode name = some old ∧
            bn.spec.desiredImage = old.spec.desiredImage
  | _ => True

/-- An entry was on the host before, or it is the deployment of an image
that comes from the supply. -/
def EntriesFrom (before host : HostStatus) : Prop :=
  ∀ entry, host.Holds entry → before.Holds entry ∨
    ∃ image, supply.Image r.references image ∧ deploy image = entry

/-- The invariant: supplied requests, stages and entries. -/
structure Originates (start s : Hosts) : Prop where
  covers : supply.Covers r.references s.world
  stages : ∀ name, (s.fleet.daemon name).inflight.ImagesFrom
    (supply.Image r.references)
  entries : ∀ name, EntriesFrom supply r deploy (start.host name) (s.host name)

variable {supply r deploy} {start s s' : Hosts} {name : String}

theorem stages_setDaemon
    {P : String → Prop} {daemon : BootcNodeReconciler}
    (stages : ∀ name, (s.fleet.daemon name).inflight.ImagesFrom P)
    (changed : daemon.inflight.ImagesFrom P) :
    ∀ other, ((s.fleet.setDaemon name daemon).daemon
      other).inflight.ImagesFrom P :=
  (Function.forall_update_iff s.fleet.daemon fun _ daemon =>
    daemon.inflight.ImagesFrom P).mpr ⟨changed, fun other _ => stages other⟩

theorem entries_setHost
    {host : HostStatus}
    (entries : ∀ name,
      EntriesFrom supply r deploy (start.host name) (s.host name))
    (changed : EntriesFrom supply r deploy (start.host name) host) :
    ∀ other, EntriesFrom supply r deploy (start.host other)
      ((s.setHost name host).host other) :=
  (Function.forall_update_iff s.host fun other host =>
    EntriesFrom supply r deploy (start.host other) host).mpr
      ⟨changed, fun other _ => entries other⟩

theorem Originates.run
    (originates : Originates supply r deploy start s) {action : StageOp.Action}
    {lands : Bool}
    (stepped : (machine r deploy).step s (.run name action lands) = some s') :
    Originates supply r deploy start s' := by
  obtain ⟨covers, stages, entries⟩ := originates
  obtain ⟨fleet, moved, rfl⟩ := Option.map_eq_some_iff.mp stepped
  simp only [Fleet.step] at moved
  split at moved
  · next byRun =>
      obtain ⟨inflight, enabled, rfl⟩ := Option.map_eq_some_iff.mp moved
      refine ⟨covers, stages_setDaemon stages ?_,
        entries_setHost entries fun entry holds => ?_⟩
      · refine (stages name).step (fun image isAcquire => ?_) enabled
        subst isAcquire
        simp [StageOp.Action.runOf] at byRun
      · unfold hostAfter at holds
        split at holds
        · split at holds
          · rcases holds with isStaged | kept
            · simp only [StageOp.step] at enabled
              split at enabled
              · next acquired =>
                  exact .inr ⟨_, stages name _ acquired.1,
                    Option.some.inj isStaged⟩
              · cases enabled
            · exact entries name entry (.inr kept)
          · exact entries name entry holds
        · exact entries name entry holds
  · cases moved

theorem Originates.step
    {action : HostAction} (originates : Originates supply r deploy start s)
    (given : s.Given supply action)
    (stepped : (machine r deploy).step s action = some s') :
    Originates supply r deploy start s' := by
  have ⟨covers, stages, entries⟩ := originates
  cases action with
  | controller env request =>
      cases stepped
      exact ⟨covers.reconcile given.1 given.2 request, stages, entries⟩
  | drained name outcome =>
      simp only [machine, Hosts.step] at stepped
      split at stepped
      · cases stepped
      · split at stepped
        · cases stepped
          exact ⟨⟨covers.pool, covers.image⟩, stages, entries⟩
        · cases stepped
  | daemon name input =>
      cases stepped
      refine ⟨⟨covers.pool, fun other bn isBn => ?_⟩,
        stages_setDaemon stages ?_, entries⟩
      · rcases Fleet.bootcNode_before_daemon isBn with
          before | ⟨rfl, orig, inner, isOrig, _, rfl⟩
        · exact covers.image other bn before
        · exact covers.image other orig isOrig
      · exact imagesFrom_reconcile _ _ (stages name) (covers.image name)
  | run name action lands => exact originates.run stepped
  | reboot name =>
      cases stepped
      refine ⟨covers, stages_setDaemon stages fun i acquired => ?_,
        entries_setHost entries fun entry holds => ?_⟩
      · exact absurd acquired (Nat.not_lt_zero i)
      · exact entries name entry (HostStatus.holds_of_rebooted holds)
  | users change =>
      cases stepped
      obtain ⟨edits, allowed, images⟩ := given
      refine ⟨⟨fun request pool stored => ⟨allowed request pool stored, ?_⟩,
        fun name bn isBn => ?_⟩, stages, entries⟩
      · rcases edits request pool stored with empty | ⟨old, isOld, status⟩
        · exact .inl empty
        · rw [status]
          exact (covers.pool request old isOld).target
      · obtain ⟨old, isOld, same⟩ := images name bn isBn
        exact same ▸ covers.image name old isOld

/-- In every run of controller, daemons, drains, hosts and users, an entry on
a host was there at the start, or it is the deployment of an image that comes
from the references of the pools and from what registries have served for
them. -/
theorem host_entries_originate
    {actions : List HostAction}
    (covers : supply.Covers r.references start.world)
    (idle : ∀ name, (start.fleet.daemon name).inflight.count = 0)
    (path : (machine r deploy).Path (fun s action => s.Given supply action)
      start actions s) :
    ∀ name,
      EntriesFrom supply r deploy (start.host name) (s.host name) := by
  refine (path.invariant (Originates supply r deploy start)
    (fun originates given stepped => originates.step given stepped)
    ⟨covers, fun name i acquired => ?_, fun _ _ holds => .inl holds⟩).entries
  rw [idle name] at acquired
  exact absurd acquired (Nat.not_lt_zero i)

/-- One reference is allowed, and no registry answers. -/
def osSupply : Supply Unit :=
  { library := ⟨fun _ _ => .error "", fun _ => .error ""⟩
    resolver := ⟨false⟩
    Allowed := (· = "os@b")
    Serves := fun _ _ => False }

theorem given_of_reportsStaged
    {s : Hosts} {action : HostAction} (member : action ∈ reportsStaged)
    (proper : s.Proper action) : s.Given osSupply action := by
  simp only [reportsStaged, stagesFirst, List.cons_append, List.nil_append,
    List.mem_cons, List.not_mem_nil, or_false] at member
  rcases member with rfl | rfl | rfl | rfl | rfl | rfl | rfl | rfl | rfl | rfl
  · exact ⟨proper, fun _ => .error ⟨"", false, false⟩,
      fun _ _ served => (by cases served),
      fun _ _ _ answer => (by cases answer)⟩
  all_goals trivial

theorem covers_singleStart : osSupply.Covers osLibrary singleStart.world := by
  refine ⟨fun request pool stored => ?_, fun _ _ isBn => nomatch isBn⟩
  obtain ⟨_, rfl⟩ : request = "workers" ∧ pool = osPool "os@b" := by
    simpa using mem_of_lookup_eq_some stored
  exact ⟨rfl, .inl rfl⟩

/-- The image that is staged on the host comes from the pool. -/
theorem host_entries_originate_staged :
    (reportedHosts.host "n").staged = some (osDeploy "os@b") ∧
      EntriesFrom osSupply osReconciler osDeploy (singleStart.host "n")
        (reportedHosts.host "n") := by
  refine ⟨by decide +kernel, ?_⟩
  rw [← reportedHosts_eq]
  obtain ⟨s, path⟩ := Machine.path_of_checks readsBooted_reportsStaged
  rw [after, path.run_eq, Option.getD_some]
  refine host_entries_originate covers_singleStart (fun _ => rfl)
    ((path.keeping (·.world.Within ["n"]) ?_ (fun _ member => member)
      singleStart_within).1.mono fun _ _ meets => meets.1) "n"
  intro s action s' member within reads stepped
  obtain ⟨proper, within'⟩ := Tame.step (by decide)
    (tame_reportsStaged action member) reads within stepped
  exact ⟨given_of_reportsStaged member proper, within'⟩

end Hosts

end BootcOperator
