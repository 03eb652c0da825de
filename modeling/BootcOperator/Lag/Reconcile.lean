import BootcOperator.Effects.Reconcile
import BootcOperator.Lag.Rollout

/-!
# A whole pass with lagging reads

`Reconcile` as a chain of the steps of `LagStep`.  Before the membership is
synchronised the pass writes nothing, and after the rollout it writes the
status of its pool only.
-/

namespace BootcOperator

open Program

namespace BootcNodePoolReconciler

section Status

variable {c : LagContext} {request : String}
  {previous : BootcNodePoolStatus}

theorem aside_setPool
    {change : PassState → BootcNodePool}
    (uid : ∀ s, (change s).uid = s.pool.uid)
    (spec : ∀ s, (change s).spec = s.pool.spec) :
    Aside c (update fun s => { s with pool := change s } : Pass Unit) :=
  Moves.update fun s => .silent (calm_pool s (uid s) (spec s)) rfl

theorem aside_complete (tagTargetChanged : Bool) (requeueAfter : Duration) :
    Aside c (complete c.env request previous tagTargetChanged
      requeueAfter) := by
  refine Moves.bind (Moves.mapError ?_) fun _ => Moves.ret _
  refine Moves.bind (Moves.read _) fun pool => Moves.ite (Moves.ret _) ?_
  refine Moves.bind (BootcOperator.aside_updatePoolStatus _ _) fun _ => ?_
  exact Moves.forEach fun event => aside_note rfl

theorem aside_reportDegraded (reason message : String) :
    Aside c (reportDegraded c.env request previous reason message) := by
  have same (s : PassState) :=
    (BootcNodePool.SameTarget.refl s.pool).setPoolDegraded
      c.env.now reason message
  exact Moves.bind (aside_setPool (fun s => (same s).uid)
    fun s => (same s).spec) fun _ => aside_complete false 0

theorem aside_handleStepError (text : String) (e : ApiError) :
    Aside c (handleStepError c.env request previous text e) :=
  Moves.ite (aside_reportDegraded _ _) (Moves.fail _)

theorem aside_recordDrainStalls : Aside c (recordDrainStalls c.env) := by
  have mark (name : String) : Aside c (markStall c.env name) := by
    refine Moves.bind (Moves.read _) fun entry => ?_
    cases entry with
    | none => exact Moves.ret _
    | some status =>
        refine Moves.ite (Moves.ret _) ?_
        refine Moves.bind (Moves.update fun _ => .perform rfl rfl rfl)
          fun _ => ?_
        exact Moves.bind (Moves.read _) fun _ => Moves.ret _
  refine Moves.bind (Moves.read _) fun drains => ?_
  refine Moves.bind (Moves.gather mark) fun stalled => ?_
  refine Moves.bind (Moves.forEach fun name => ?_) fun _ => Moves.ret _
  exact Moves.bind (Moves.read _) fun _ => aside_note rfl

theorem aside_finishPass (tagTargetChanged : Bool) (requeueAfter : Duration) :
    Aside c (finishPass c.env request previous tagTargetChanged
      requeueAfter) := by
  have same (s : PassState) := SameTarget.syncPoolStatus
    (BootcNodePool.SameTarget.refl s.pool) c.env.now s.rs
  refine Moves.bind aside_recordDrainStalls fun stallCheck => ?_
  refine Moves.bind (aside_setPool (fun s => (same s).uid)
    fun s => (same s).spec) fun _ => ?_
  exact Moves.bind (Moves.read _) fun rs => aside_complete _ _

theorem aside_addFinalizer : Aside c (addFinalizer c.env request) := by
  refine Moves.bind (aside_setPool (fun _ => rfl) fun _ => rfl) fun _ => ?_
  exact Moves.bind (Moves.read _) fun pool =>
    (aside_updatePool _ _).mapError

end Status

theorem Aside.ends
    {α : Type} {c : LagContext} {m : Pass α} {pre : PassState → Prop}
    (aside : Aside c m) :
    (lagRegime c).Follows pre m (fun _ _ => True) AnyError :=
  .weaken (aside.follows (fun _ _ _ _ => trivial) fun _ _ _ => trivial)
    fun _ _ => trivial

theorem Begins.setPool
    {c : LagContext} {s : PassState} (begins : Begins c s)
    {pool : BootcNodePool} (uid : pool.uid = s.pool.uid)
    (spec : pool.spec = s.pool.spec) : Begins c { s with pool := pool } :=
  ⟨begins.world, uid.trans begins.uid, spec.trans begins.spec, begins.owned⟩

/-- What is asked of the reads of a pass. -/
structure LagContext.Admissible (c : LagContext) : Prop where
  serves : c.ServesNodes
  shows : c.ShowsSlots
  visits : c.Visits
  versions : c.Versions c.start

section Pass

variable {c : LagContext} {request : String}
  {previous : BootcNodePoolStatus}

theorem lag_reconcileTarget
    {tagTargetChanged : Bool} {requeueAfter : Duration}
    (admissible : LagContext.Admissible c) :
    (lagRegime c).Follows (Begins c)
      (c.reconciler.reconcileTarget c.env request previous tagTargetChanged
        requeueAfter) (fun _ _ => True) AnyError := by
  refine .bindVia (fun _ => Begins c) (.update (fun _ _ => rfl)
    fun s begins => ?_) fun _ => ?_
  · have same := SameTarget.clearRolloutReasons
      (BootcNodePool.SameTarget.refl s.pool) c.env.now
    exact Begins.setPool begins same.uid same.spec
  refine .bind (.attempt (lag_syncMembership admissible.serves
    admissible.shows admissible.visits admissible.versions))
    fun result => ?_
  cases result with
  | error e => exact Aside.ends (aside_handleStepError _ e)
  | ok _ =>
      refine .bind lag_recordNodeEvents fun _ => ?_
      refine .bind (.attempt (lag_driveRollout admissible.serves))
        fun result => ?_
      cases result with
      | error e => exact Aside.ends (aside_handleStepError _ e)
      | ok _ => exact Aside.ends (aside_finishPass _ _)

theorem lag_adoptResolution
    {resolution : Resolution} (uid : resolution.pool.uid = c.pool.uid)
    (spec : resolution.pool.spec = c.pool.spec) :
    (lagRegime c).Follows (Begins c) (adoptResolution resolution)
      (fun _ => Begins c) AnyError := by
  have adopted : (lagRegime c).Follows (Begins c)
      (update fun s => { s with pool := resolution.pool } : Pass Unit)
      (fun _ => Begins c) AnyError :=
    .update (fun _ _ => rfl) fun s begins =>
      ⟨begins.world, uid, spec, begins.owned⟩
  unfold adoptResolution
  cases resolution.answer with
  | none => exact adopted
  | some answer =>
      refine .bindReadAny fun pool => .bindVia (fun _ => Begins c)
        (follows_note (fun _ _ => .act (.aside rfl rfl rfl)) ?_)
        fun _ => adopted
      exact fun s begins =>
        ⟨begins.world, begins.uid, begins.spec, begins.owned⟩

theorem lag_reconcileImage
    {secretData : Option String} (admissible : LagContext.Admissible c) :
    (lagRegime c).Follows (Begins c)
      (c.reconciler.reconcileImage c.env request previous secretData)
      (fun _ _ => True) AnyError := by
  refine .bindVia (fun _ => Begins c) (.update (fun _ _ => rfl)
    fun s begins => ?_) fun _ => ?_
  · have same :=
      (BootcNodePool.SameTarget.refl s.pool).clearPoolDegradedReason
        c.env.now poolSecretError
    exact Begins.setPool begins same.uid same.spec
  refine .bindReadOf
    (fun pool => pool.uid = c.pool.uid ∧ pool.spec = c.pool.spec)
    (fun s begins => ⟨begins.uid, begins.spec⟩) fun pool same =>
      .weaken ?_ fun _ before => before.1
  cases resolved : c.reconciler.resolveTargetDigest c.env pool
      secretData with
  | error e => exact Aside.ends (aside_handleStepError _ e)
  | ok resolution =>
      obtain ⟨_, uid, spec⟩ := resolveTargetDigest_keeps resolved
      refine .bind (lag_adoptResolution (uid.trans same.1)
        (spec.trans same.2)) fun _ => ?_
      exact .ite (fun _ => Aside.ends (aside_complete _ _)) fun _ =>
        lag_reconcileTarget admissible

theorem lag_reconcileLive (admissible : LagContext.Admissible c) :
    (lagRegime c).Follows (Begins c)
      (c.reconciler.reconcileLive c.env request) (fun _ _ => True)
      AnyError := by
  refine .bindReadAny fun pool => .bindVia (fun _ => Begins c) ?_
    fun result => ?_
  · intro s begins
    rw [attempt_apply, c.reconciler.fetchPullSecretData_apply c.env pool s]
    exact ⟨.refl, begins⟩
  · cases result with
    | error e => exact Aside.ends (aside_reportDegraded _ _)
    | ok secretData => exact lag_reconcileImage admissible

theorem lag_reconcile
    (request : String) (admissible : LagContext.Admissible c)
    (isRead : ∀ pool, (c.env.view .getPool c.start.api).pool request =
      some pool → pool = c.pool) :
    (lagRegime c).Follows (· = .start c.start)
      (c.reconciler.reconcile c.env request) (fun _ _ => True)
      AnyError := by
  have gets : (lagRegime c).Follows (· = .start c.start)
      (Pass.get c.env .getPool (·.pool request) "bootcnodepools" request)
      (fun pool s => s = .start c.start ∧ pool = c.pool) AnyError := by
    refine .conseq (follows_get_view (fun _ _ _ _ _ => trivial)
          fun _ _ _ _ _ => trivial)
      (fun _ before => before) (fun pool s after => ⟨after.1, ?_⟩)
      fun _ _ after => after
    obtain ⟨isStart, shown⟩ := after
    subst isStart
    exact isRead pool shown
  refine .bind (.attempt gets) fun result => ?_
  cases result with
  | error e =>
      exact .ite (fun _ => .ret fun _ _ => trivial) fun _ =>
        .fail fun _ _ => trivial
  | ok pool =>
      refine .assume fun isPool => ?_
      subst isPool
      refine .bindVia (fun _ => Begins c) (.update (fun _ _ => rfl) ?_)
        fun _ => ?_
      · rintro s rfl
        exact ⟨rfl, rfl, rfl, fun _ => rfl⟩
      refine .ite (fun _ => ?_) fun _ => .ite (fun _ => ?_) fun _ =>
        lag_reconcileLive admissible
      · exact .bind (lag_handlePoolDeletion admissible.serves
          admissible.shows admissible.versions) fun _ =>
          .ret fun _ _ => trivial
      · exact .bind (Aside.ends aside_addFinalizer) fun _ =>
          .ret fun _ _ => trivial

end Pass

end BootcNodePoolReconciler

end BootcOperator
