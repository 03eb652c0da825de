import BootcOperator.Effects.Locality
import BootcOperator.Effects.Quiet
import BootcOperator.Effects.Reconcile

/-!
# What a pass leaves in the status of its pool

The status is written once, at the end of a `Reconcile` that gets there, from
the pool in memory.  Whatever happens in between, a failed tag resolution that
is on record stays on record, and none gets there that did not take place.
-/

namespace BootcOperator

open Program BootcNodePoolReconciler

variable {s : PassState} {tagTargetChanged : Bool} {requeueAfter : Duration}
  {admitted : Action → Bool} {previous : BootcNodePoolStatus}
  {stored : BootcNodePool}

/-- The reasons a pool may be Degraded for. -/
def poolReasons : List String :=
  [poolNodeDegraded, poolSecretError, poolNodeConflict, poolRolloutHalted,
    poolInvalidSpec, poolTagResolutionError]

def HasKnownReason (pool : BootcNodePool) : Prop :=
  ∀ reason, degradedReason pool = some reason → reason ∈ poolReasons

/-- The second pool reports a failed tag resolution exactly if the first one
does. -/
structure KeepsTag (p q : BootcNodePool) : Prop where
  tag : degradedReason q = some poolTagResolutionError ↔
    degradedReason p = some poolTagResolutionError
  known : HasKnownReason p → HasKnownReason q
  next : q.status.nextTagResolutionTime = p.status.nextTagResolutionTime
  spec : q.spec = p.spec

instance : IsPreorder BootcNodePool KeepsTag where
  refl := fun _ => ⟨.rfl, id, rfl, rfl⟩
  trans := fun _ _ _ first second =>
    ⟨second.tag.trans first.tag, fun known => second.known (first.known known),
      second.next.trans first.next, second.spec.trans first.spec⟩

section Pool

variable {now : Time} {reason : String} {pool : BootcNodePool}

theorem setPoolDegraded_next (message : String) :
    (setPoolDegraded now reason message pool).status.nextTagResolutionTime =
      pool.status.nextTagResolutionTime := by
  unfold setPoolDegraded
  dsimp only
  split_ifs <;> rfl

/-- A problem with a lower precedence does not hide a failed resolution. -/
theorem KeepsTag.setPoolDegraded
    (message : String) (known : reason ∈ poolReasons)
    (other : reason ≠ poolTagResolutionError) :
    KeepsTag pool (setPoolDegraded now reason message pool) := by
  have spec := ((BootcNodePool.SameTarget.refl pool).setPoolDegraded now
    reason message).spec
  by_cases outranked : Outranked pool reason
  · rw [setPoolDegraded_of_outranked now message outranked]
    exact refl pool
  · have isReason := degradedReason_setPoolDegraded now message outranked
    refine ⟨?_, fun _ current isCurrent => ?_, setPoolDegraded_next message,
      spec⟩
    · rw [isReason, Option.some.injEq]
      refine iff_of_false other fun isTag => outranked ⟨_, isTag, ?_⟩
      simp only [poolReasons, List.mem_cons, List.not_mem_nil, or_false]
        at known
      rcases known with rfl | rfl | rfl | rfl | rfl | rfl
      · decide
      · decide
      · decide
      · decide
      · decide
      · exact absurd rfl other
    · rw [isReason, Option.some.injEq] at isCurrent
      exact isCurrent ▸ known

theorem KeepsTag.clearPoolDegradedReason
    (other : reason ≠ poolTagResolutionError) :
    KeepsTag pool (clearPoolDegradedReason now reason pool) := by
  have spec := ((BootcNodePool.SameTarget.refl pool).clearPoolDegradedReason
    now reason).spec
  refine ⟨?_, fun known current isCurrent => ?_,
    nextTagResolutionTime_clearPoolDegradedReason now reason pool, spec⟩
  · rw [degradedReason_clearPoolDegradedReason]
    split
    · next isReason =>
        simpa [isReason] using other
    · rfl
  · rw [degradedReason_clearPoolDegradedReason] at isCurrent
    split at isCurrent
    · cases isCurrent
    · exact known current isCurrent

theorem KeepsTag.clearRolloutReasons :
    KeepsTag pool (clearRolloutReasons now pool) :=
  Trans.trans (Trans.trans (Trans.trans
    (KeepsTag.clearPoolDegradedReason (by decide))
    (KeepsTag.clearPoolDegradedReason (by decide)))
    (KeepsTag.clearPoolDegradedReason (by decide)))
    (KeepsTag.clearPoolDegradedReason (by decide))

theorem degradedReason_syncPoolStatus (rs : RolloutState) :
    degradedReason (syncPoolStatus now rs pool) = degradedReason pool := by
  have upToDate : (upToDateUpdate { pool with status := countedStatus pool rs }
      rs).type = poolUpToDate := by
    unfold upToDateUpdate
    split_ifs <;> rfl
  unfold degradedReason syncPoolStatus BootcNodePool.setCondition
  dsimp only
  rw [findStatusCondition_setStatusCondition_of_ne
    (by rw [upToDate]; decide)]
  rfl

theorem KeepsTag.syncPoolStatus (rs : RolloutState) :
    KeepsTag pool (syncPoolStatus now rs pool) := by
  have same : degradedReason (BootcOperator.syncPoolStatus now rs pool) =
      degradedReason pool := degradedReason_syncPoolStatus rs
  exact ⟨by rw [same], fun known reason isReason =>
    known reason (same ▸ isReason), rfl, rfl⟩

end Pool

/-! ## Parts of a pass -/

/-- What a `Reconcile` of the pool `first` has in memory and in the API server
once its target is settled in `base`. -/
structure OnRecord (request : String) (first base : BootcNodePool)
    (s : PassState) : Prop where
  pool : KeepsTag base s.pool
  stored : ∀ q, s.world.api.pool request = some q →
    q.spec = first.spec ∧
      (q.status = first.status ∨
        ∃ written, KeepsTag base written ∧ q.status = written.status)

/-- A quiet part keeps what depends on the findings only. -/
theorem Quiet.follows
    {α : Type} {m : Pass α} {inv : PassState → Prop} (quiet : Quiet admitted m)
    (ofFindings : ∀ s s', s'.findings = s.findings → inv s → inv s') :
    unobserved.Follows inv m (fun _ => inv) (fun _ => inv) := by
  intro s holds
  have after := ofFindings s _ (quiet s).findings holds
  refine ⟨.single trivial, ?_⟩
  cases (m s).1 <;> exact after

/-- The triple of a part of a pass that keeps a fact. -/
def Maintains {α : Type} (inv : PassState → Prop) (m : Pass α) : Prop :=
  unobserved.Follows inv m (fun _ => inv) (fun _ => inv)

theorem Maintains.final
    {α : Type} {inv : PassState → Prop} {m : Pass α}
    (maintains : Maintains inv m) (holds : inv s) :
    inv (m s).2 :=
  Regime.Follows.final maintains holds

/-- A fact about the stored pools and about the tag resolution on record. -/
def Carried (inv : PassState → Prop) : Prop :=
  ∀ s s', s'.world.api.pool = s.world.api.pool → KeepsTag s.pool s'.pool →
    inv s → inv s'

namespace Carried

variable {inv : PassState → Prop} (carried : Carried inv) {env : Env}

include carried

theorem of_quiet {α : Type} {m : Pass α} (quiet : Quiet admitted m) :
    Maintains inv m := by
  refine quiet.follows fun s s' findings holds => carried s s' ?_ ?_ holds
  · exact congrArg Findings.storedPools findings
  · have pool : s'.pool = s.pool := congrArg Findings.pool findings
    rw [pool]
    exact refl _

theorem update
    {change : PassState → PassState}
    (pool : ∀ s, KeepsTag s.pool (change s).pool)
    (stored : ∀ s, (change s).world.api.pool = s.world.api.pool) :
    Maintains inv (Program.update change : Pass Unit) :=
  .step (fun _ _ => trivial) fun s holds =>
    carried s _ (stored s) (pool s) holds

variable (r : BootcNodePoolReconciler)

theorem syncMembership : Maintains inv (r.syncMembership env) := by
  refine .bind (.mapError (carried.of_quiet
    (r.quiet_listMatchingNodes env anyAction))) fun matching => ?_
  refine .bind (.mapError (carried.of_quiet
    (quiet_listAllBootcNodes env anyAction))) fun all => ?_
  refine .bind (carried.update (fun _ => refl _) fun _ => rfl)
    fun _ => ?_
  refine .bind (carried.of_quiet (?_ : Quiet anyAction _))
    fun conflicting => ?_
  · refine Moves.gather fun name => ?_
    cases matching name with
    | none => exact Moves.ret _
    | some node =>
        exact r.quiet_syncMatchingNode env (.self _) all name node
  refine .bind (carried.of_quiet (Moves.forEach
    (quiet_removeDeparted env (.self _) matching))) fun _ => ?_
  refine .ite (fun _ => ?_) fun _ => .ret fun _ before => before
  exact carried.update
    (fun _ => .setPoolDegraded _ (by decide) (by decide)) fun _ => rfl

theorem driveRollout : Maintains inv (r.driveRollout env) := by
  refine .bind (.mapError (carried.of_quiet
    (quiet_collectDrainResults env (.self _)))) fun _ => ?_
  refine .bind (carried.update (fun s => ?_) fun _ => rfl) fun _ => ?_
  · dsimp only
    split
    · exact .setPoolDegraded _ (by decide) (by decide)
    · exact refl _
  refine .bind (.mapError (carried.of_quiet
    (quiet_freeCompletedSlots env (.self _)))) fun _ => ?_
  refine .bindRead fun unhealthy => .conseq (.ite (fun _ => ?_) fun _ =>
    carried.of_quiet (r.quiet_advanceRollout env (.self _)))
    (fun _ before => before.1) (fun _ _ after => after)
    fun _ _ after => after
  exact carried.update
    (fun _ => .setPoolDegraded _ (by decide) (by decide)) fun _ => rfl

end Carried

section OnRecord

variable {request : String} {first base : BootcNodePool} {env : Env}

theorem OnRecord.carried : Carried (OnRecord request first base) :=
  fun _ _ stored pool onRecord =>
    ⟨Trans.trans onRecord.pool pool, stored ▸ onRecord.stored⟩

abbrev KeepsRecord {α : Type} (request : String) (first base : BootcNodePool)
    (m : Pass α) : Prop :=
  Maintains (OnRecord request first base) m

theorem keepsRecord_updatePoolStatus
    {pool : BootcNodePool} (keeps : KeepsTag base pool) :
    KeepsRecord request first base (Pass.updatePoolStatus env request pool) := by
  have sent : Quiet anyAction (Pass.sendWrite env .updatePoolStatus) :=
    quiet_sendWrite env .updatePoolStatus
  refine .bind (OnRecord.carried.of_quiet sent) fun _ => ?_
  refine .bindRead fun found => ?_
  cases found with
  | none => exact .fail fun _ before => before.1
  | some server =>
      refine .step (fun _ _ => trivial) fun s before =>
        ⟨before.1.pool, fun q isStored => ?_⟩
      have spec := (before.1.stored server before.2).1
      simp only [PassState.perform, World.putPool_pool, if_pos,
        Option.some.injEq] at isStored
      rw [← isStored]
      exact ⟨spec, .inr ⟨pool, keeps, rfl⟩⟩

section

theorem keepsRecord_complete :
    KeepsRecord request first base
      (complete env request previous tagTargetChanged requeueAfter) := by
  refine .bind (.mapError (.bindReadOf (KeepsTag base)
    (fun _ onRecord => onRecord.pool) fun pool keeps => .ite
      (fun _ => .ret fun _ before => before.1) fun _ => ?_)) fun _ =>
      .ret fun _ before => before
  refine .bind (.conseq (keepsRecord_updatePoolStatus keeps)
    (fun _ before => before.1) (fun _ _ after => after)
    fun _ _ after => after) fun _ => ?_
  refine .forEach_keeps fun event _ => ?_
  have noted : Quiet anyAction (Pass.note (.event event)) := quiet_note rfl
  exact OnRecord.carried.of_quiet noted

theorem keepsRecord_reportDegraded
    {reason message : String} (known : reason ∈ poolReasons)
    (other : reason ≠ poolTagResolutionError) :
    KeepsRecord request first base
      (reportDegraded env request previous reason message) :=
  .bind (OnRecord.carried.update (fun _ => .setPoolDegraded message known other)
    fun _ => rfl) fun _ => keepsRecord_complete

theorem keepsRecord_handleStepError {text : String} {err : ApiError} :
    KeepsRecord request first base
      (handleStepError env request previous text err) :=
  .ite (fun _ => keepsRecord_reportDegraded (by decide) (by decide))
    fun _ => .fail fun _ before => before

end

variable (r : BootcNodePoolReconciler)

theorem keepsRecord_finishPass :
    KeepsRecord request first base
      (finishPass env request previous tagTargetChanged requeueAfter) := by
  refine .bind (OnRecord.carried.of_quiet
    (quiet_recordDrainStalls env (.self _)))
    fun stallCheck => ?_
  refine .bind (OnRecord.carried.update (fun s => .syncPoolStatus s.rs)
    fun _ => rfl) fun _ => ?_
  exact .bindRead fun rs => .conseq keepsRecord_complete
    (fun _ before => before.1) (fun _ _ after => after) fun _ _ after => after

theorem keepsRecord_reconcileTarget :
    KeepsRecord request first base
      (r.reconcileTarget env request previous tagTargetChanged
        requeueAfter) := by
  refine .bind (OnRecord.carried.update (fun _ => .clearRolloutReasons)
    fun _ => rfl) fun _ => ?_
  refine .bind (.attempt (OnRecord.carried.syncMembership r)) fun result => ?_
  cases result with
  | error err => exact keepsRecord_handleStepError
  | ok _ =>
      refine .bind (OnRecord.carried.of_quiet (quiet_recordNodeEvents env))
        fun _ => ?_
      refine .bind (.attempt (OnRecord.carried.driveRollout r)) fun result => ?_
      cases result with
      | error err => exact keepsRecord_handleStepError
      | ok _ => exact keepsRecord_finishPass

end OnRecord

section Write

variable (env : Env) (request : String)

theorem forEach_note_apply
    (events : List Event) (s : PassState) :
    ∃ s', forEach events (fun event => Pass.note (.event event)) s =
        (.ok (), s') ∧ s'.world = s.world := by
  induction events generalizing s with
  | nil => exact ⟨s, rfl, rfl⟩
  | cons event rest ih =>
      exact ih (s.perform (.event event) s.world)

theorem Pass.updatePoolStatus_apply
    (isStored : s.world.api.pool request = some stored) (pool : BootcNodePool) :
    Pass.updatePoolStatus env request pool s =
      let sent :=
        { s with issued := s.issued ++ [.updatePoolStatus] }
      match env.fails .updatePoolStatus with
      | some message => (.error ⟨.other, message⟩, sent)
      | none =>
          (.ok (), sent.perform (.wrote .updatePoolStatus)
            (s.world.putPool request
              (some { stored with status := pool.status }))) := by
  unfold Pass.updatePoolStatus Pass.sendWrite Pass.send
  cases env.fails .updatePoolStatus with
  | some message => rfl
  | none => simp [bind_apply, isStored]

/-- The pool at the end of a pass: with the new status, if that is different
and the write is accepted. -/
theorem complete_pool
    (isStored : s.world.api.pool request = some stored)
    (previous : BootcNodePoolStatus) (tagTargetChanged : Bool)
    (requeueAfter : Duration) :
    (complete env request previous tagTargetChanged
      requeueAfter s).2.world.api.pool request =
      if s.pool.status = previous ∨ (env.fails .updatePoolStatus).isSome then
        some stored
      else some { stored with status := s.pool.status } := by
  unfold complete updatePoolStatus
  by_cases same : s.pool.status = previous
  · simp [bind_apply, mapError, same, isStored]
  · have written :=
      Pass.updatePoolStatus_apply env request isStored s.pool
    cases refused : env.fails .updatePoolStatus with
    | some message =>
        rw [refused] at written
        simp [bind_apply, mapError, same, written, isStored]
    | none =>
        rw [refused] at written
        obtain ⟨s', noted, world⟩ := forEach_note_apply
          (poolEvents s.pool previous tagTargetChanged)
          (PassState.perform
            { s with issued := s.issued ++ [.updatePoolStatus] }
            (.wrote .updatePoolStatus)
            (s.world.putPool request
              (some { stored with status := s.pool.status })))
        simp only [bind_apply, mapError, read_apply, if_neg same, written,
          noted, pure_apply, world]
        simp [same, PassState.perform, World.putPool_pool]

variable {env request} in
theorem stored_of_complete
    {s' : PassState} (isStored : s.world.api.pool request = some stored)
    {requeued : Duration}
    (returned : complete env request stored.status tagTargetChanged
      requeueAfter s = (.ok requeued, s')) :
    s'.world.api.pool request =
      some { stored with status := s.pool.status } := by
  have final := complete_pool env request isStored stored.status
    tagTargetChanged requeueAfter
  rw [returned] at final
  by_cases same : s.pool.status = stored.status
  · rw [final, if_pos (.inl same), same]
  · cases refused : env.fails .updatePoolStatus with
    | none => simpa [same, refused] using final
    | some message =>
        have written :=
          Pass.updatePoolStatus_apply env request isStored s.pool
        rw [refused] at written
        unfold complete updatePoolStatus at returned
        simp [bind_apply, mapError, same, written] at returned

theorem keepsBootcNodes_finishPass :
    Moves (Keeping fun s : PassState => s.world.api.bootcNode)
      (finishPass env request previous tagTargetChanged requeueAfter) := by
  refine Moves.bind ?_ fun stallCheck => Moves.bind (Moves.update fun _ => rfl)
    fun _ => Moves.bind (Moves.read _) fun rs => Moves.bind
      (Moves.mapError ?_) fun _ => Moves.ret _
  · refine Moves.bind (Moves.read _) fun drains => ?_
    refine Moves.bind (Moves.gather fun name => ?_) fun stalled => ?_
    · refine Moves.bind (Moves.read _) fun entry => ?_
      cases entry with
      | none => exact Moves.ret _
      | some status =>
          refine Moves.ite (Moves.ret _) ?_
          exact Moves.bind (Moves.update fun _ => rfl) fun _ =>
            Moves.bind (Moves.read _) fun _ => Moves.ret _
    · refine Moves.bind (Moves.forEach fun name => ?_) fun _ => Moves.ret _
      exact Moves.bind (Moves.read _) fun _ => Moves.update fun _ => rfl
  · refine Moves.bind (Moves.read _) fun pool => Moves.ite (Moves.ret _) ?_
    refine Moves.bind ?_ fun _ => Moves.forEach fun _ =>
      Moves.update fun _ => rfl
    refine Moves.bind (Moves.bind (Moves.update fun _ => rfl) fun _ => ?_)
      fun _ => Moves.bind (Moves.read _) fun found => ?_
    · unfold Pass.send
      split
      · exact Moves.ret _
      · exact Moves.fail _
    · cases found with
      | none => exact Moves.fail _
      | some server => exact Moves.update fun _ => rfl

end Write

/-! ## The whole pass -/

/-- A `Reconcile` that reads a pool which is not being deleted and has its
finalizer. -/
structure ReadsPool (env : Env) (request : String) (w : World)
    (pool : BootcNodePool) : Prop where
  answered : env.fails .getPool = none
  read : (env.view .getPool w.api).pool request = some pool
  live : isLive pool = true

/-- The pool that is read is the one that is stored. -/
structure ReadsLive (env : Env) (request : String) (w : World)
    (pool : BootcNodePool) : Prop extends ReadsPool env request w pool where
  stored : w.api.pool request = some pool

section Reconcile

variable (r : BootcNodePoolReconciler) {env : Env} {request : String}
  {w : World} {pool : BootcNodePool}

theorem reconcile_of_unanswered
    {message : String} (fails : env.fails .getPool = some message) :
    (r.reconcile env request (.start w)).2 = .start w := by
  have gets := Pass.get_apply env .getPool (·.pool request) "bootcnodepools"
    request (.start w)
  unfold Env.answer at gets
  rw [fails] at gets
  unfold reconcile
  rw [bind_apply, attempt_apply, gets]
  rfl

theorem reconcile_of_read
    (answered : env.fails .getPool = none)
    (read : (env.view .getPool w.api).pool request = some pool) :
    r.reconcile env request (.start w) =
      r.reconcilePool env request pool (.start w) := by
  have gets := Pass.get_apply env .getPool (·.pool request) "bootcnodepools"
    request (.start w)
  unfold Env.answer at gets
  simp only [answered, PassState.start, read] at gets
  unfold reconcile
  rw [bind_apply, attempt_apply, PassState.start, gets]

theorem reconcile_of_live (reads : ReadsPool env request w pool) :
    r.reconcile env request (.start w) =
      r.reconcileLive env request { PassState.start w with pool := pool } := by
  have live := reads.live
  simp only [isLive, Option.isNone_iff_eq_none, Bool.decide_and,
    Bool.and_eq_true, decide_eq_true_eq] at live
  rw [reconcile_of_read r reads.answered reads.read, reconcilePool]
  simp [bind_apply, live.1, live.2]

theorem reconcile_of_fetched (reads : ReadsPool env request w pool) :
    r.reconcile env request (.start w) =
      match (r.fetchPullSecretData env pool (.start w)).1 with
      | .error err =>
          reportDegraded env request pool.status poolSecretError err.message
            { PassState.start w with pool := pool }
      | .ok secretData =>
          r.reconcileImage env request pool.status secretData
            { PassState.start w with pool := pool } := by
  have fetched : r.fetchPullSecretData env pool
      { PassState.start w with pool := pool } =
        ((r.fetchPullSecretData env pool (.start w)).1,
          { PassState.start w with pool := pool }) :=
    r.fetchPullSecretData_apply env pool _
  rw [reconcile_of_live r reads, reconcileLive]
  simp only [bind_apply, read_apply, attempt_apply, fetched]
  cases (r.fetchPullSecretData env pool (.start w)).1 <;> rfl

/-- The stored pool has the spec and the status it had. -/
def StatusKept (request : String) (pool : BootcNodePool) (s : PassState) :
    Prop :=
  s.pool.spec = pool.spec ∧ ∀ q, s.world.api.pool request = some q →
    q.spec = pool.spec ∧ q.status = pool.status

theorem StatusKept.of_findings
    {s' : PassState} (findings : s'.findings = s.findings)
    (kept : StatusKept request pool s) : StatusKept request pool s' := by
  have samePool : s'.pool = s.pool := congrArg Findings.pool findings
  have stored : s'.world.api.pool = s.world.api.pool :=
    congrArg Findings.storedPools findings
  unfold StatusKept
  rw [samePool, stored]
  exact kept

theorem statusKept_of_quiet
    {α : Type} {m : Pass α} (quiet : Quiet admitted m) :
    unobserved.Follows (StatusKept request pool) m
      (fun _ => StatusKept request pool) (fun _ => StatusKept request pool) :=
  quiet.follows fun _ _ findings => StatusKept.of_findings findings

theorem statusKept_updatePool
    {new : BootcNodePool} (spec : new.spec = pool.spec) :
    unobserved.Follows (StatusKept request pool)
      (Pass.updatePool env request new) (fun _ => StatusKept request pool)
      (fun _ => StatusKept request pool) := by
  have sent : Quiet anyAction (Pass.sendWrite env .updatePool) :=
    quiet_sendWrite env .updatePool
  refine .bind (statusKept_of_quiet sent) fun _ => .bindRead fun found => ?_
  cases found with
  | none => exact .fail fun _ before => before.1
  | some server =>
      refine .step (fun _ _ => trivial) fun s before =>
        ⟨before.1.1, fun q isStored => ?_⟩
      have status := (before.1.2 server before.2).2
      simp only [PassState.perform, World.putPool_pool, if_pos] at isStored
      split at isStored
      · cases isStored
      · rw [← Option.some.inj isStored]
        exact ⟨spec, status⟩

theorem statusKept_addFinalizer :
    unobserved.Follows (StatusKept request pool) (addFinalizer env request)
      (fun _ => StatusKept request pool)
      (fun _ => StatusKept request pool) := by
  refine .bindVia (fun _ => StatusKept request pool)
    (.step (fun _ _ => trivial) fun s before => before) fun _ => ?_
  refine .bindReadOf (·.spec = pool.spec) (fun _ before => before.1)
    fun new spec => .mapError ?_
  exact .conseq (statusKept_updatePool spec) (fun _ before => before.1)
    (fun _ _ after => after) fun _ _ after => after

theorem statusKept_handlePoolDeletion :
    unobserved.Follows (StatusKept request pool)
      (handlePoolDeletion env request) (fun _ => StatusKept request pool)
      (fun _ => StatusKept request pool) := by
  refine .bindReadOf (·.spec = pool.spec) (fun _ before => before.1)
    fun deleted spec => .conseq (.ite (fun _ => .ret fun _ before => before)
      fun _ => ?_) (fun _ before => before.1) (fun _ _ after => after)
      fun _ _ after => after
  refine .bind (.mapError (statusKept_of_quiet
    (quiet_listAllBootcNodes env anyAction)))
    fun all => ?_
  have removes (name : String) :
      Quiet anyAction (removeForDeletion env deleted all name) := by
    unfold removeForDeletion
    cases all name with
    | none => exact Moves.ret _
    | some bn =>
        exact Moves.ite (quiet_removeBootcNode env (.self _) name bn).mapError
          (Moves.ret _)
  refine .bind (statusKept_of_quiet (Moves.forEach removes)) fun _ => ?_
  refine .bindVia (fun _ => StatusKept request pool)
    (.step (fun _ _ => trivial) fun s before => ⟨spec, before.2⟩)
    fun _ => ?_
  refine .bind (.attempt (statusKept_updatePool spec)) fun result => ?_
  cases result with
  | ok _ => exact .ret fun _ before => before
  | error err =>
      exact .ite (fun _ => .ret fun _ before => before) fun _ =>
        .fail fun _ before => before

/-- A pool without its finalizer, or one that is being deleted, keeps its
status. -/
theorem statusKept_reconcilePool (notLive : isLive pool = false) :
    unobserved.Follows
      (fun s => ∀ q, s.world.api.pool request = some q →
        q.spec = pool.spec ∧ q.status = pool.status)
      (r.reconcilePool env request pool) (fun _ => StatusKept request pool)
      (fun _ => StatusKept request pool) := by
  refine .bindVia (fun _ => StatusKept request pool)
    (.step (fun _ _ => trivial) fun s before => ⟨rfl, before⟩) fun _ => ?_
  refine .ite (fun _ => ?_) fun notDeleted => .ite (fun _ => ?_)
    fun finalized => ?_
  · exact .bind statusKept_handlePoolDeletion fun _ =>
      .ret fun _ before => before
  · exact .bind statusKept_addFinalizer fun _ => .ret fun _ before => before
  · simp [isLive, Option.not_isSome_iff_eq_none.mp notDeleted,
      not_not.mp finalized] at notLive

/-- The state once the target is known. -/
def settledState (env : Env) (w : World) (pool : BootcNodePool)
    (resolution : Resolution) : PassState :=
  (adoptResolution resolution
    { PassState.start w with
      pool := clearPoolDegradedReason env.now poolSecretError pool }).2

theorem adoptResolution_apply (resolution : Resolution) (s : PassState) :
    ∃ s', adoptResolution resolution s = (.ok (), s') ∧
      s'.pool = resolution.pool ∧ s'.world = s.world ∧
      s'.rolloutHalted = s.rolloutHalted ∧ s'.maxUnavail = s.maxUnavail := by
  unfold adoptResolution
  cases resolution.answer with
  | none => exact ⟨_, rfl, rfl, rfl, rfl, rfl⟩
  | some answer => exact ⟨_, rfl, rfl, rfl, rfl, rfl⟩

theorem settledState_spec
    (env : Env) (w : World) (pool : BootcNodePool) (resolution : Resolution) :
    (settledState env w pool resolution).pool = resolution.pool ∧
      (settledState env w pool resolution).world = w ∧
      (settledState env w pool resolution).rolloutHalted = false ∧
      (settledState env w pool resolution).maxUnavail = none := by
  obtain ⟨s', adopted, spec⟩ := adoptResolution_apply resolution
    { PassState.start w with
      pool := clearPoolDegradedReason env.now poolSecretError pool }
  unfold settledState
  rw [adopted]
  exact spec

theorem reconcile_of_settled
    (reads : ReadsPool env request w pool) {resolution : Resolution}
    (settled : r.settle env w pool = some resolution) :
    r.reconcile env request (.start w) =
      (if resolution.pool.status.targetDigest = "" then
        complete env request pool.status resolution.tagTargetChanged
          resolution.requeueAfter
      else
        r.reconcileTarget env request pool.status resolution.tagTargetChanged
          resolution.requeueAfter) (settledState env w pool resolution) := by
  obtain ⟨secretData, fetched, resolved⟩ := settle_eq_some settled
  obtain ⟨s', adopted, _⟩ := adoptResolution_apply resolution
    { PassState.start w with
      pool := clearPoolDegradedReason env.now poolSecretError pool }
  rw [reconcile_of_fetched r reads, fetched]
  unfold settledState
  rw [adopted]
  dsimp only
  rw [reconcileImage]
  simp only [bind_apply, update_apply, read_apply, resolved, adopted]

theorem reconcile_of_unsettled
    (reads : ReadsPool env request w pool)
    (unsettled : r.settle env w pool = none) :
    (∃ message, r.reconcile env request (.start w) =
      reportDegraded env request pool.status poolSecretError message
        { PassState.start w with pool := pool }) ∨
    ∃ err, r.reconcile env request (.start w) =
      handleStepError env request pool.status "resolving target digest: " err
        { PassState.start w with
          pool := clearPoolDegradedReason env.now poolSecretError pool } := by
  rw [reconcile_of_fetched r reads]
  cases fetched : (r.fetchPullSecretData env pool (.start w)).1 with
  | error err => exact .inl ⟨err.message, rfl⟩
  | ok secretData =>
      have live : ¬ ((env.fails .getPool).isSome ∨ isLive pool = false) := by
        simp [reads.answered, reads.live]
      rw [settle, if_neg live, fetched] at unsettled
      dsimp only at unsettled ⊢
      rw [reconcileImage]
      simp only [bind_apply, update_apply, read_apply]
      cases resolved : r.resolveTargetDigest env
          (clearPoolDegradedReason env.now poolSecretError pool)
          secretData with
      | ok resolution =>
          rw [resolved] at unsettled
          cases unsettled
      | error err => exact .inr ⟨err, rfl⟩

/-- The state in which the members are synchronised. -/
def clearedState (env : Env) (w : World) (pool : BootcNodePool)
    (resolution : Resolution) : PassState :=
  { settledState env w pool resolution with
    pool := clearRolloutReasons env.now resolution.pool }

/-- A `Reconcile` on the full path, with what it has read and the states
between its steps: it settles on a target, synchronises the members, and the
rollout returns. -/
structure FullPath (r : BootcNodePoolReconciler) (env : Env)
    (request : String) (w : World) where
  pool : BootcNodePool
  reads : ReadsPool env request w pool
  resolution : Resolution
  settled : r.settle env w pool = some resolution
  hasTarget : resolution.pool.status.targetDigest ≠ ""
  synced : PassState
  isSynced : r.syncMembership env (clearedState env w pool resolution) =
    (.ok (), synced)
  recorded : PassState
  isRecorded : recordNodeEvents env synced = (.ok (), recorded)
  driven : PassState
  isDriven : r.driveRollout env recorded = (.ok (), driven)

/-- What is left to do on the full path is to persist the status. -/
theorem reconcile_of_fullPath (full : FullPath r env request w) :
    r.reconcile env request (.start w) =
      finishPass env request full.pool.status
        full.resolution.tagTargetChanged full.resolution.requeueAfter
        full.driven := by
  rw [reconcile_of_settled r full.reads full.settled,
    if_neg full.hasTarget, reconcileTarget]
  have samePool := (settledState_spec env w full.pool full.resolution).1
  have isSynced := full.isSynced
  unfold clearedState at isSynced
  simp only [bind_apply, update_apply, attempt_apply, samePool, isSynced,
    full.isRecorded, full.isDriven]

theorem ready_of_settled
    (faithful : env.Faithful w) (reads : ReadsLive env request w pool)
    {resolution : Resolution} (settled : r.settle env w pool = some resolution)
    (hasTarget : resolution.pool.status.targetDigest ≠ "") :
    Ready (r.contextOf env request w)
      (clearedState env w pool resolution) := by
  obtain ⟨_, sameWorld, unhalted, unresolved⟩ :=
    settledState_spec env w pool resolution
  have isPool : (r.contextOf env request w).pool = resolution.pool := by
    rw [contextOf_pool r request env reads.stored, settledPool, settled]
  have isResolution : (r.contextOf env request w).resolution =
      some resolution := by
    rw [contextOf_resolution r request env reads.stored, settled]
  have spec := (contextOf_keeps r request env reads.stored).2
  refine ⟨⟨resolution, isResolution, hasTarget⟩, ?_, ?_, ?_, unhalted,
    unresolved⟩
  · rw [isPool]
    exact SameTarget.clearRolloutReasons (.refl _) env.now
  · rw [clearedState, sameWorld]
    exact faithful
  · intro selector valid name
    rw [spec] at valid
    dsimp only [contextOf] at valid
    rw [clearedState]
    dsimp only
    rw [contextOf_isMember r request env reads.stored, matchesPool, valid,
      reads.live, Bool.true_and, sameWorld]

theorem onRecord_of_live (reads : ReadsLive env request w pool) :
    OnRecord request pool (r.settledPool env w pool)
      (r.reconcile env request (.start w)).2 := by
  have stored : ∀ base q, w.api.pool request = some q →
      q.spec = pool.spec ∧ (q.status = pool.status ∨
        ∃ written, KeepsTag base written ∧ q.status = written.status) := by
    intro base q isStored
    rw [reads.stored, Option.some.injEq] at isStored
    exact isStored ▸ ⟨rfl, .inl rfl⟩
  cases settled : r.settle env w pool with
  | some resolution =>
      have isPool : r.settledPool env w pool = resolution.pool := by
        rw [settledPool, settled]
      obtain ⟨pool', world', _⟩ := settledState_spec env w pool resolution
      have start : OnRecord request pool resolution.pool
          (settledState env w pool resolution) :=
        ⟨by rw [pool']; exact refl _, by rw [world']; exact stored _⟩
      rw [reconcile_of_settled r reads.toReadsPool settled, isPool]
      split
      · exact keepsRecord_complete.final start
      · exact (keepsRecord_reconcileTarget r).final start
  | none =>
      have isPool : r.settledPool env w pool = pool := by
        rw [settledPool, settled]
      rw [isPool]
      rcases reconcile_of_unsettled r reads.toReadsPool settled with
        ⟨message, reported⟩ | ⟨err, handled⟩
      · rw [reported]
        exact (keepsRecord_reportDegraded (by decide) (by decide)).final
          ⟨refl _, stored pool⟩
      · rw [handled]
        exact keepsRecord_handleStepError.final
          ⟨.clearPoolDegradedReason (by decide), stored pool⟩

theorem record_of_reconcile
    (faithful : env.Faithful w) (stored : w.api.pool request = some pool)
    {q : BootcNodePool}
    (isStored : (r.reconcile env request (.start w)).2.world.api.pool
      request = some q) :
    q.spec = pool.spec ∧
      (q.status = pool.status ∨
        ∃ written, KeepsTag (r.settledPool env w pool) written ∧
          q.status = written.status) := by
  have kept (unchanged : ∀ q,
      (r.reconcile env request (.start w)).2.world.api.pool request = some q →
        q.spec = pool.spec ∧ q.status = pool.status) :
      q.spec = pool.spec ∧ (q.status = pool.status ∨
        ∃ written, KeepsTag (r.settledPool env w pool) written ∧
          q.status = written.status) :=
    (unchanged q isStored).imp_right .inl
  have unchanged : ∀ q, w.api.pool request = some q →
      q.spec = pool.spec ∧ q.status = pool.status := by
    intro q isStored
    rw [stored, Option.some.injEq] at isStored
    exact isStored ▸ ⟨rfl, rfl⟩
  have read : (env.view .getPool w.api).pool request = some pool := by
    rw [faithful.fresh, stored]
  cases answered : env.fails .getPool with
  | some message =>
      refine kept ?_
      rw [reconcile_of_unanswered r answered]
      exact unchanged
  | none =>
      cases live : isLive pool with
      | true =>
          exact (onRecord_of_live r ⟨⟨answered, read, live⟩, stored⟩).stored q
            isStored
      | false =>
          refine kept ?_
          rw [reconcile_of_read r answered read]
          exact ((statusKept_reconcilePool r live).final unchanged).2

end Reconcile

end BootcOperator
