import BootcOperator.Controller.Rollout

/-!
# The pool reconcile

`BootcNodePoolReconciler.Reconcile`, with all its returns.  The clock is read
once for a whole pass.
-/

namespace BootcOperator

namespace BootcNodePoolReconciler

open Program

def updatePoolStatus (env : Env) (request : String)
    (previous : BootcNodePoolStatus) (tagTargetChanged : Bool) :
    Pass Unit := do
  let pool ← read (·.pool)
  if pool.status = previous then pure ()
  else do
    Pass.updatePoolStatus env request pool
    forEach (poolEvents pool previous tagTargetChanged) fun event =>
      Pass.note (.event event)

def complete (env : Env) (request : String) (previous : BootcNodePoolStatus)
    (tagTargetChanged : Bool) (requeueAfter : Duration) : Pass Duration := do
  mapError (.wrap "updating pool status: ")
    (updatePoolStatus env request previous tagTargetChanged)
  pure requeueAfter

/-- Report a problem with the pool and stop without requeueing. -/
def reportDegraded (env : Env) (request : String)
    (previous : BootcNodePoolStatus) (reason message : String) :
    Pass Duration := do
  update fun s =>
    { s with pool := setPoolDegraded env.now reason message s.pool }
  complete env request previous false 0

/-- The handling of an error of a step of `Reconcile`: an invalid spec is
reported in the status, any other error is returned. -/
def handleStepError (env : Env) (request : String)
    (previous : BootcNodePoolStatus) (text : String) (err : ApiError) :
    Pass Duration :=
  if err.kind = .invalidSpec then
    reportDegraded env request previous poolInvalidSpec err.message
  else fail (err.wrap text)

/-- `clearPoolDegradedReason` of the rollout-path reasons. -/
def clearRolloutReasons (now : Time) (pool : BootcNodePool) : BootcNodePool :=
  clearPoolDegradedReason now poolInvalidSpec
    (clearPoolDegradedReason now poolRolloutHalted
      (clearPoolDegradedReason now poolNodeDegraded
        (clearPoolDegradedReason now poolNodeConflict pool)))

/-- `Reconcile` behind `driveRollout`. -/
def finishPass (env : Env) (request : String)
    (previous : BootcNodePoolStatus) (tagTargetChanged : Bool)
    (requeueAfter : Duration) : Pass Duration := do
  let stallCheck ← recordDrainStalls env
  update fun s => { s with pool := syncPoolStatus env.now s.rs s.pool }
  let rs ← read (·.rs)
  complete env request previous tagTargetChanged
    (earlierRequeue (earlierRequeue requeueAfter stallCheck) rs.requeueAfter)

/-- `Reconcile` once the pool has a target digest. -/
def reconcileTarget (r : BootcNodePoolReconciler) (env : Env)
    (request : String) (previous : BootcNodePoolStatus)
    (tagTargetChanged : Bool) (requeueAfter : Duration) : Pass Duration := do
  update fun s => { s with pool := clearRolloutReasons env.now s.pool }
  match ← attempt (r.syncMembership env) with
  | .error err =>
      handleStepError env request previous "syncing membership: " err
  | .ok _ => do
      recordNodeEvents env
      match ← attempt (r.driveRollout env) with
      | .error err =>
          handleStepError env request previous "driving rollout: " err
      | .ok _ =>
          finishPass env request previous tagTargetChanged requeueAfter

/-- The pass goes on with the resolved pool. -/
def adoptResolution (resolution : Resolution) : Pass Unit := do
  match resolution.answer with
  | some answer => do
      let pool ← read (·.pool)
      Pass.note (.resolve pool.spec.imageRef answer)
  | none => pure ()
  update fun s => { s with pool := resolution.pool }

/-- `Reconcile` once the pull secret is read. -/
def reconcileImage (r : BootcNodePoolReconciler) (env : Env)
    (request : String) (previous : BootcNodePoolStatus)
    (secretData : Option String) : Pass Duration := do
  update fun s =>
    { s with
      pool := clearPoolDegradedReason env.now poolSecretError s.pool }
  let pool ← read (·.pool)
  match r.resolveTargetDigest env pool secretData with
  | .error err =>
      handleStepError env request previous "resolving target digest: " err
  | .ok resolution => do
      adoptResolution resolution
      if resolution.pool.status.targetDigest = "" then
        complete env request previous resolution.tagTargetChanged
          resolution.requeueAfter
      else
        r.reconcileTarget env request previous resolution.tagTargetChanged
          resolution.requeueAfter

/-- `Reconcile` of a pool that is not being deleted and has its finalizer. -/
def reconcileLive (r : BootcNodePoolReconciler) (env : Env)
    (request : String) : Pass Duration := do
  let pool ← read (·.pool)
  match ← attempt (r.fetchPullSecretData env pool) with
  | .error err =>
      reportDegraded env request pool.status poolSecretError err.message
  | .ok secretData =>
      r.reconcileImage env request pool.status secretData

/-- Add the cleanup finalizer; the update event triggers the next pass. -/
def addFinalizer (env : Env) (request : String) : Pass Unit := do
  update fun s =>
    { s with
      pool :=
        { s.pool with
          finalizers := s.pool.finalizers ++ [finalizerPoolCleanup] } }
  let pool ← read (·.pool)
  mapError (.wrap "adding finalizer: ") (Pass.updatePool env request pool)

/-- `Reconcile` after its first read. -/
def reconcilePool (r : BootcNodePoolReconciler) (env : Env)
    (request : String) (pool : BootcNodePool) : Pass Duration := do
  update fun s => { s with pool := pool }
  if pool.deletionTimestamp.isSome then do
    handlePoolDeletion env request
    pure 0
  else if finalizerPoolCleanup ∉ pool.finalizers then do
    addFinalizer env request
    pure 0
  else r.reconcileLive env request

/-- `Reconcile`; it returns `RequeueAfter`. -/
def reconcile (r : BootcNodePoolReconciler) (env : Env) (request : String) :
    Pass Duration := do
  match ← attempt (Pass.get env .getPool (·.pool request) "bootcnodepools"
    request) with
  | .error err =>
      if err.kind = .notFound then pure 0
      else fail (err.wrap "fetching pool: ")
  | .ok pool => r.reconcilePool env request pool

end BootcNodePoolReconciler

end BootcOperator
