import BootcOperator.Effects.Persisted
import BootcOperator.Effects.Tables

/-!
# Reporting the problem that stops a pass

A pull secret that cannot be read and an image reference that does not parse
stop a `Reconcile` early, before the reasons of earlier passes are cleared.
Whether the problem gets into the status depends on the reason that is there
already.
-/

namespace BootcOperator

open BootcNodePoolReconciler Program

/-- The pool is Degraded for this reason, with this message. -/
def BootcNodePool.Reports (pool : BootcNodePool) (reason message : String) :
    Prop :=
  ∃ condition,
    findStatusCondition pool.status.conditions poolDegraded =
      some condition ∧
    condition.status = .conditionTrue ∧ condition.reason = reason ∧
    condition.message = message

/-- The stored pool reports it. -/
def World.Reports (w : World) (request reason message : String) : Prop :=
  ∃ pool, w.api.pool request = some pool ∧ pool.Reports reason message

section Reports

variable {pool : BootcNodePool} {reason message : String}

theorem BootcNodePool.Reports.degradedReason
    (reports : pool.Reports reason message) :
    degradedReason pool = some reason := by
  obtain ⟨condition, found, isTrue, isReason, _⟩ := reports
  unfold BootcOperator.degradedReason
  rw [found]
  simp [isTrue, isReason]

theorem BootcNodePool.Reports.not_outranked
    (reports : pool.Reports reason message) : ¬ Outranked pool reason := by
  rintro ⟨current, isCurrent, lower⟩
  rw [reports.degradedReason] at isCurrent
  cases isCurrent
  exact absurd lower (lt_irrefl _)

theorem BootcNodePool.reports_congr
    {pool' : BootcNodePool} (status : pool'.status = pool.status) :
    pool'.Reports reason message ↔ pool.Reports reason message := by
  unfold BootcNodePool.Reports
  rw [status]

theorem reports_setPoolDegraded
    (now : Time) (prevails : ¬ Outranked pool reason) :
    (setPoolDegraded now reason message pool).Reports reason message := by
  rw [setPoolDegraded_of_not_outranked now message prevails]
  refine ⟨_, findStatusCondition_setStatusCondition now
    { type := poolDegraded
      status := .conditionTrue
      reason := reason
      message := message } pool.status.conditions, ?_⟩
  split <;> exact ⟨rfl, rfl, rfl⟩

end Reports

section Write

variable (env : Env) (request : String)

/-- What `reportDegraded` leaves in the status.  `remembered` is the pool in
memory, of which a reason may have been cleared. -/
theorem reportDegraded_reports
    {s : PassState} {stored : BootcNodePool}
    (isStored : s.world.api.pool request = some stored)
    {reason message : String}
    (kept : Outranked s.pool reason → s.pool = stored) :
    (reportDegraded env request stored.status reason
      message s).2.world.Reports request reason message ↔
      ¬ Outranked s.pool reason ∧
        (env.fails .updatePoolStatus = none ∨
          stored.Reports reason message) := by
  have final : (reportDegraded env request stored.status reason
      message s).2.world.api.pool request =
      if (setPoolDegraded env.now reason message s.pool).status =
          stored.status ∨ (env.fails .updatePoolStatus).isSome then
        some stored
      else
        some { stored with
          status :=
            (setPoolDegraded env.now reason message s.pool).status } :=
    complete_pool env request
      (s := { s with pool := setPoolDegraded env.now reason message s.pool })
      isStored stored.status false 0
  unfold World.Reports
  simp only [final]
  by_cases outranked : Outranked s.pool reason
  · rw [setPoolDegraded_of_outranked env.now message outranked,
      kept outranked]
    have unreported : ¬ stored.Reports reason message := by
      intro reports
      exact reports.not_outranked (kept outranked ▸ outranked)
    simp [unreported, kept outranked ▸ outranked]
  · have reported : (setPoolDegraded env.now reason message s.pool).Reports
        reason message := reports_setPoolDegraded env.now outranked
    by_cases same : (setPoolDegraded env.now reason message s.pool).status =
        stored.status
    · have already : stored.Reports reason message :=
        (BootcNodePool.reports_congr same).mp reported
      simp [same, already, outranked]
    · cases refused : env.fails .updatePoolStatus with
      | some failure => simp [outranked]
      | none =>
          have written : BootcNodePool.Reports
              { stored with
                status :=
                  (setPoolDegraded env.now reason message s.pool).status }
              reason message :=
            (BootcNodePool.reports_congr rfl).mpr reported
          simp [same, outranked, written]

end Write

section Stops

variable (r : BootcNodePoolReconciler) {env : Env} {request : String}
  {w : World} {pool : BootcNodePool}

/-- The problem that has stopped a `Reconcile` is what the persisted Degraded
condition says. -/
structure StopReported (r : BootcNodePoolReconciler) (env : Env)
    (request : String) (w : World) (pool : BootcNodePool) : Prop where
  secret : ∀ err, (r.fetchPullSecretData env pool (.start w)).1 = .error err →
    (r.reconcile env request (.start w)).2.world.Reports request
      poolSecretError err.message
  reference : ∀ secretData err,
    (r.fetchPullSecretData env pool (.start w)).1 = .ok secretData →
    r.references.parseNamed pool.spec.imageRef = .error err →
    (r.reconcile env request (.start w)).2.world.Reports request
      poolInvalidSpec
      ("invalid image ref " ++ pool.spec.imageRef.goQuote ++ ": " ++ err)

/-- The reason of the problem is not outranked by the persisted one, and the
status is written, unless it says the same already. -/
def Reportable (env : Env) (pool : BootcNodePool) (reason message : String) :
    Prop :=
  ¬ Outranked pool reason ∧
    (env.fails .updatePoolStatus = none ∨ pool.Reports reason message)

theorem secret_reported_iff
    (reads : ReadsLive env request w pool) {err : ApiError}
    (fetched : (r.fetchPullSecretData env pool (.start w)).1 = .error err) :
    (r.reconcile env request (.start w)).2.world.Reports request
      poolSecretError err.message ↔
        Reportable env pool poolSecretError err.message := by
  have stops : r.reconcile env request (.start w) =
      reportDegraded env request pool.status poolSecretError err.message
        { PassState.start w with pool := pool } := by
    rw [reconcile_of_fetched r reads.toReadsPool, fetched]
  rw [stops]
  exact reportDegraded_reports env request reads.stored fun _ => rfl

/-- A cleared SecretError outranks nothing that matters here. -/
theorem outranked_clear_iff (now : Time) :
    Outranked (clearPoolDegradedReason now poolSecretError pool)
      poolInvalidSpec ↔ Outranked pool poolInvalidSpec := by
  unfold Outranked
  rw [degradedReason_clearPoolDegradedReason]
  split
  · next isSecret =>
      simp only [isSecret, reduceCtorEq, false_and, exists_false,
        Option.some.injEq, false_iff, not_exists, not_and]
      rintro _ rfl
      decide
  · rfl

theorem reference_reported_iff
    (reads : ReadsLive env request w pool) {secretData : Option String}
    {err : String}
    (fetched : (r.fetchPullSecretData env pool (.start w)).1 =
      .ok secretData)
    (unparsed : r.references.parseNamed pool.spec.imageRef = .error err) :
    (r.reconcile env request (.start w)).2.world.Reports request
      poolInvalidSpec
      ("invalid image ref " ++ pool.spec.imageRef.goQuote ++ ": " ++ err) ↔
        Reportable env pool poolInvalidSpec
          ("invalid image ref " ++ pool.spec.imageRef.goQuote ++ ": " ++
            err) := by
  have spec := ((BootcNodePool.SameTarget.refl pool).clearPoolDegradedReason
    env.now poolSecretError).spec
  have stops : r.reconcile env request (.start w) =
      reportDegraded env request pool.status poolInvalidSpec
        ("invalid image ref " ++ pool.spec.imageRef.goQuote ++ ": " ++ err)
        { PassState.start w with
          pool := clearPoolDegradedReason env.now poolSecretError pool } := by
    rw [reconcile_of_fetched r reads.toReadsPool, fetched]
    dsimp only
    rw [reconcileImage]
    simp only [bind_apply, update_apply, read_apply, resolveTargetDigest,
      spec, unparsed]
    rfl
  rw [stops, reportDegraded_reports env request reads.stored, Reportable,
    outranked_clear_iff]
  intro outranked
  refine clearPoolDegradedReason_of_ne env.now fun isSecret => ?_
  obtain ⟨current, isCurrent, _⟩ := outranked
  dsimp only at isCurrent
  rw [degradedReason_clearPoolDegradedReason, if_pos isSecret] at isCurrent
  cases isCurrent

/-- A `Reconcile` that is stopped by its pull secret or its image reference
reports it exactly when no reason with a higher precedence is persisted and
the status write is accepted or not needed. -/
theorem stop_reported_iff (reads : ReadsLive env request w pool) :
    StopReported r env request w pool ↔
      (∀ err, (r.fetchPullSecretData env pool (.start w)).1 = .error err →
        Reportable env pool poolSecretError err.message) ∧
      ∀ secretData err,
        (r.fetchPullSecretData env pool (.start w)).1 = .ok secretData →
        r.references.parseNamed pool.spec.imageRef = .error err →
          Reportable env pool poolInvalidSpec
            ("invalid image ref " ++ pool.spec.imageRef.goQuote ++ ": " ++
              err) := by
  constructor
  · intro reported
    exact ⟨fun err fetched =>
        (secret_reported_iff r reads fetched).mp (reported.secret err fetched),
      fun secretData err fetched unparsed =>
        (reference_reported_iff r reads fetched unparsed).mp
          (reported.reference secretData err fetched unparsed)⟩
  · rintro ⟨secret, reference⟩
    exact ⟨fun err fetched =>
        (secret_reported_iff r reads fetched).mpr (secret err fetched),
      fun secretData err fetched unparsed =>
        (reference_reported_iff r reads fetched unparsed).mpr
          (reference secretData err fetched unparsed)⟩

end Stops

/-! ## A pull secret that may not be used -/

/-- The user refers the pool to another Secret. -/
def World.setPullSecret (w : World) (request : String) (ref : PullSecretRef) :
    World :=
  match w.api.pool request with
  | none => w
  | some pool =>
      w.putPool request
        (some { pool with spec := { pool.spec with pullSecretRef := some ref } })

def tagged : Tables :=
  { pools := [("workers", osPool "os:1")] }

def foreignSecret : PullSecretRef :=
  { secretNamespace := "registry"
    name := "credentials" }

/-- The pool refers to a secret of a namespace that is not allowed. -/
def secretRefused : World :=
  tagged.world.setPullSecret "workers" foreignSecret

/-- The status of a pool without conditions reports the problem. -/
theorem stop_reported_iff_refused :
    ∃ pool, ReadsLive (.calm [] 0) "workers" secretRefused pool ∧
      (osReconciler.fetchPullSecretData (.calm [] 0) pool
        (.start secretRefused)).1.isOk = false ∧
      StopReported osReconciler (.calm [] 0) "workers" secretRefused pool := by
  obtain ⟨pool, stored⟩ : ∃ pool,
      secretRefused.api.pool "workers" = some pool := ⟨_, rfl⟩
  have shape : isLive pool = true ∧ degradedReason pool = none ∧
      pool.spec.pullSecretRef = some foreignSecret := by
    cases stored
    decide
  have reads : ReadsLive (.calm [] 0) "workers" secretRefused pool :=
    ⟨⟨rfl, stored, shape.1⟩, stored⟩
  have unranked : ∀ reason, ¬ Outranked pool reason := by
    rintro reason ⟨current, isCurrent, _⟩
    rw [shape.2.1] at isCurrent
    cases isCurrent
  refine ⟨pool, reads, ?_, (stop_reported_iff osReconciler reads).mpr ?_⟩
  · simp only [fetchPullSecretData, shape.2.2]
    rfl
  · exact ⟨fun _ _ => ⟨unranked _, .inl rfl⟩,
      fun _ _ _ _ => ⟨unranked _, .inl rfl⟩⟩

/-- The tag cannot be resolved, and then the user sets the pull secret. -/
def refusedAfterTag : World :=
  (osReconciler.reconcile (.calm [] 0) "workers"
    (.start tagged.world)).2.world.setPullSecret "workers" foreignSecret

/-- The second `Reconcile` fails to read the pull secret, and the status still
says that the tag could not be resolved. -/
theorem secret_error_masked :
    ∃ pool, ReadsLive (.calm [] 1) "workers" refusedAfterTag pool ∧
      ((osReconciler.reconcile (.calm [] 1) "workers"
        (.start refusedAfterTag)).2.world.api.pool "workers").map
          degradedReason = some (some poolTagResolutionError) ∧
      ¬ StopReported osReconciler (.calm [] 1) "workers" refusedAfterTag
        pool := by
  have shape : (refusedAfterTag.api.pool "workers").map
      (fun pool => (isLive pool, pool.spec.pullSecretRef)) =
        some (true, some foreignSecret) := by decide +kernel
  obtain ⟨pool, stored, isShape⟩ := Option.map_eq_some_iff.mp shape
  obtain ⟨live, isRef⟩ := Prod.mk.inj isShape
  have masked : ((osReconciler.reconcile (.calm [] 1) "workers"
      (.start refusedAfterTag)).2.world.api.pool "workers").map
        degradedReason = some (some poolTagResolutionError) := by
    decide +kernel
  refine ⟨pool, ⟨⟨rfl, stored, live⟩, stored⟩, masked, fun reported => ?_⟩
  have fetched : ∃ err, (osReconciler.fetchPullSecretData (.calm [] 1) pool
      (.start refusedAfterTag)).1 = .error err := by
    simp only [fetchPullSecretData, isRef]
    exact ⟨_, rfl⟩
  obtain ⟨err, isError⟩ := fetched
  obtain ⟨final, isFinal, reports⟩ := reported.secret err isError
  rw [isFinal, Option.map_some, reports.degradedReason] at masked
  exact absurd masked (by decide)

end BootcOperator
