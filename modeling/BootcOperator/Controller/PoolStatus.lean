import BootcOperator.Controller.Requests

/-!
# The status of a pool

The Degraded condition with its precedence, the resolution of the target
digest (`bootcnodepool_controller.go`) and the aggregation of the rollout
state into the status (`status.go`).
-/

namespace BootcOperator

/-! ## The Degraded condition -/

/-- A reason of higher rank is not overwritten. -/
def poolDegradedPrecedence (reason : String) : Nat :=
  if reason = poolNodeDegraded then 1
  else if reason = poolSecretError then 2
  else if reason = poolNodeConflict then 3
  else if reason = poolRolloutHalted then 4
  else if reason = poolInvalidSpec then 5
  else if reason = poolTagResolutionError then 6
  else 0

def BootcNodePool.setCondition (pool : BootcNodePool) (now : Time)
    (new : ConditionUpdate) : BootcNodePool :=
  { pool with
    status :=
      { pool.status with
        conditions := setStatusCondition now new pool.status.conditions } }

/-- The current Degraded condition, when it is True. -/
def degradedReason (pool : BootcNodePool) : Option String :=
  match findStatusCondition pool.status.conditions poolDegraded with
  | some current =>
      if current.status = .conditionTrue then some current.reason else none
  | none => none

def setPoolDegraded (now : Time) (reason message : String)
    (pool : BootcNodePool) : BootcNodePool :=
  let outranked : Bool :=
    match degradedReason pool with
    | some current =>
        poolDegradedPrecedence reason < poolDegradedPrecedence current
    | none => false
  if outranked then pool
  else
    pool.setCondition now
      { type := poolDegraded
        status := .conditionTrue
        reason := reason
        message := message }

def clearPoolDegradedReason (now : Time) (reason : String)
    (pool : BootcNodePool) : BootcNodePool :=
  if degradedReason pool = some reason then
    pool.setCondition now
      { type := poolDegraded
        status := .conditionFalse
        reason := poolHealthy }
  else pool

/-- A problem that is already reported outranks the reason. -/
def Outranked (pool : BootcNodePool) (reason : String) : Prop :=
  ∃ current, degradedReason pool = some current ∧
    poolDegradedPrecedence reason < poolDegradedPrecedence current

section Degraded

variable (now : Time) {reason : String} (message : String)
  {pool : BootcNodePool}

theorem setPoolDegraded_of_outranked (outranked : Outranked pool reason) :
    setPoolDegraded now reason message pool = pool := by
  obtain ⟨current, isCurrent, lower⟩ := outranked
  unfold setPoolDegraded
  simp [isCurrent, lower]

theorem setPoolDegraded_of_not_outranked
    (prevails : ¬ Outranked pool reason) :
    setPoolDegraded now reason message pool =
      pool.setCondition now
        { type := poolDegraded
          status := .conditionTrue
          reason := reason
          message := message } := by
  unfold setPoolDegraded
  cases isCurrent : degradedReason pool with
  | none => simp
  | some current =>
      have notLower :
          ¬ poolDegradedPrecedence reason < poolDegradedPrecedence current :=
        fun lower => prevails ⟨current, isCurrent, lower⟩
      simp [notLower]

theorem degradedReason_setCondition (new : ConditionUpdate)
    (isDegraded : new.type = poolDegraded) :
    degradedReason (pool.setCondition now new) =
      if new.status = .conditionTrue then some new.reason else none := by
  unfold degradedReason BootcNodePool.setCondition
  rw [← isDegraded]
  obtain ⟨condition, found, status, isReason⟩ :=
    exists_findStatusCondition_setStatusCondition now new
      pool.status.conditions
  simp only [found, status, isReason]

theorem degradedReason_setPoolDegraded
    (prevails : ¬ Outranked pool reason) :
    degradedReason (setPoolDegraded now reason message pool) = some reason := by
  rw [setPoolDegraded_of_not_outranked now message prevails,
    degradedReason_setCondition now _ rfl]
  rfl

theorem degradedReason_clearPoolDegradedReason :
    degradedReason (clearPoolDegradedReason now reason pool) =
      if degradedReason pool = some reason then none
      else degradedReason pool := by
  unfold clearPoolDegradedReason
  split
  · rw [degradedReason_setCondition now _ rfl]
    rfl
  · rfl

theorem clearPoolDegradedReason_of_ne
    (other : degradedReason pool ≠ some reason) :
    clearPoolDegradedReason now reason pool = pool :=
  if_neg other

end Degraded

/-! ## The target digest -/

/-- The time of the next resolution has come. -/
def isResolutionDue (pool : BootcNodePool) (now : Time) : Bool :=
  match pool.status.nextTagResolutionTime with
  | some next => !decide (now < next)
  | none => true

theorem nextTagResolutionTime_clearPoolDegradedReason
    (now : Time) (reason : String) (pool : BootcNodePool) :
    (clearPoolDegradedReason now reason pool).status.nextTagResolutionTime =
      pool.status.nextTagResolutionTime := by
  unfold clearPoolDegradedReason
  split_ifs <;> rfl

/-- What `resolveTargetDigest` returns, with the answer of the resolver when
it was called. -/
structure Resolution where
  pool : BootcNodePool
  requeueAfter : Duration := 0
  tagTargetChanged : Bool := false
  answer : Option (Except String String) := none

namespace BootcNodePoolReconciler

/-- What the answer of the registry changes. -/
def applyAnswer (now : Time) (answer : Except String String)
    (pool : BootcNodePool) : BootcNodePool :=
  match answer with
  | .error err => setPoolDegraded now poolTagResolutionError err pool
  | .ok digest =>
      clearPoolDegradedReason now poolTagResolutionError
        { pool with status := { pool.status with targetDigest := digest } }

/-- The resolution of a tag reference that is due. -/
def resolveTag (r : BootcNodePoolReconciler) (env : Env)
    (pool : BootcNodePool) (secretData : Option String) : Resolution :=
  let answer := env.resolve pool.spec.imageRef secretData
  let resolved := applyAnswer env.now answer pool
  { pool :=
      { resolved with
        status :=
          { resolved.status with
            nextTagResolutionTime :=
              some (env.now + r.tagResolutionInterval) } }
    requeueAfter := r.tagResolutionInterval
    tagTargetChanged :=
      match answer with
      | .ok digest =>
          pool.status.targetDigest ≠ "" ∧ pool.status.targetDigest ≠ digest
      | .error _ => false
    answer := some answer }

def resolveTargetDigest (r : BootcNodePoolReconciler) (env : Env)
    (pool : BootcNodePool) (secretData : Option String) :
    Except ApiError Resolution :=
  match r.references.parseNamed pool.spec.imageRef with
  | .error err =>
      .error ⟨.invalidSpec,
        "invalid image ref " ++ pool.spec.imageRef.goQuote ++ ": " ++ err⟩
  | .ok ref =>
      match ref.digest with
      | some digest =>
          .ok
            { pool :=
                clearPoolDegradedReason env.now poolTagResolutionError
                  { pool with
                    status :=
                      { pool.status with
                        targetDigest := digest
                        nextTagResolutionTime := none } } }
      | none =>
          match pool.status.nextTagResolutionTime with
          | some next =>
              if env.now < next then
                .ok { pool := pool, requeueAfter := next - env.now }
              else .ok (r.resolveTag env pool secretData)
          | none => .ok (r.resolveTag env pool secretData)

/-- The image a pass rolls out; the reference has been parsed before. -/
def desiredImageFromPool (r : BootcNodePoolReconciler)
    (pool : BootcNodePool) : String :=
  match r.references.parseNamed pool.spec.imageRef with
  | .ok ref => ref.trimmed ++ "@" ++ pool.status.targetDigest
  | .error _ => "@" ++ pool.status.targetDigest

def fetchPullSecretData (r : BootcNodePoolReconciler) (env : Env)
    (pool : BootcNodePool) : Pass (Option String) :=
  match pool.spec.pullSecretRef with
  | none => pure none
  | some ref =>
      if ref.secretNamespace ∉ r.pullSecretNamespaces then
        Program.fail ⟨.other,
          "pull secret namespace " ++ ref.secretNamespace.goQuote ++
            " is not allowed (allowed: " ++
            String.intercalate ", " r.pullSecretNamespaces ++ ")"⟩
      else do
        let key := ref.secretNamespace ++ "/" ++ ref.name
        let secret ← Program.mapError
          (.wrap ("fetching pull secret " ++ key ++ ": "))
          (Pass.get env .getSecret (·.secret ref.secretNamespace ref.name)
            "secrets" ref.name)
        match secret.data.lookup dockerConfigJsonKey with
        | some data => pure (some data)
        | none =>
            Program.fail ⟨.other,
              "pull secret " ++ key ++ " missing " ++ dockerConfigJsonKey ++
                " key"⟩

end BootcNodePoolReconciler

/-! ## Aggregation -/

namespace RolloutState

def nodeCount (rs : RolloutState) : Nat :=
  rs.upToDate.length + rs.pending.length + rs.staging.length +
    rs.staged.length + rs.rebooting.length + rs.degraded.length +
    rs.unclassified.length

/-- `rolloutBreakdown` -/
def breakdown (rs : RolloutState) : String :=
  toString rs.upToDate.length ++ "/" ++ toString rs.nodeCount ++
    " updated; " ++
    String.intercalate ", "
      [toString rs.pending.length ++ " pending",
        toString rs.staging.length ++ " staging",
        toString rs.staged.length ++ " staged",
        toString rs.rebooting.length ++ " rebooting",
        toString rs.degraded.length ++ " degraded"]

end RolloutState

/-- `clampCount`, for the counts that `len` returns. -/
def clampCount (n : Nat) : Int :=
  min n 2147483647

def isPaused (pool : BootcNodePool) : Bool :=
  match pool.spec.rollout with
  | some rollout => rollout.paused
  | none => false

/-- The UpToDate condition that `syncUpToDateCondition` sets. -/
def upToDateUpdate (pool : BootcNodePool) (rs : RolloutState) :
    ConditionUpdate :=
  if isPaused pool ∧ pool.status.nodeCount ≠ pool.status.updatedCount then
    { type := poolUpToDate
      status := .conditionFalse
      reason := poolPaused
      message := rs.breakdown }
  else if pool.status.nodeCount ≠ pool.status.updatedCount then
    { type := poolUpToDate
      status := .conditionFalse
      reason := poolRolloutInProgress
      message := rs.breakdown }
  else
    { type := poolUpToDate
      status := .conditionTrue
      reason := poolAllUpdated }

/-- The counters of the status. -/
def countedStatus (pool : BootcNodePool) (rs : RolloutState) :
    BootcNodePoolStatus :=
  let nodeCount := clampCount rs.nodeCount
  let updatedCount := clampCount rs.upToDate.length
  let deployedDigest :=
    if nodeCount = updatedCount then pool.status.targetDigest
    else pool.status.deployedDigest
  { pool.status with
    observedGeneration := pool.generation
    nodeCount := nodeCount
    updatedCount := updatedCount
    updatingCount :=
      clampCount (rs.pending.length + rs.staging.length +
        rs.staged.length + rs.rebooting.length)
    degradedCount := clampCount rs.degraded.length
    deployedDigest := deployedDigest
    updateAvailable := pool.status.targetDigest ≠ deployedDigest }

def syncPoolStatus (now : Time) (rs : RolloutState) (pool : BootcNodePool) :
    BootcNodePool :=
  let counted := { pool with status := countedStatus pool rs }
  counted.setCondition now (upToDateUpdate counted rs)

end BootcOperator
