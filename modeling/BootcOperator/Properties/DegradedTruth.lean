import BootcOperator.Effects.Diagnosis
import BootcOperator.Effects.Persisted
import BootcOperator.Lib.Machine
import BootcOperator.Properties.MembershipExact

/-!
# The truth of the Degraded condition

One condition stands for all problems of a pool.  It is set by precedence,
cleared by reason, and a failed tag resolution is carried over from pass to
pass until the tag is due again.  The run remembers whether the last attempt
to resolve the tag has failed; after a `Reconcile` that gets to its end, the
persisted condition says this and what the pass has found, unless a digest
reference was seen by a pass that could not write its status.
-/

namespace BootcOperator

open Program BootcNodePoolReconciler

variable {q p : BootcNodePool} {failing : Bool}

/-! ## Precedence -/

/-- The reason is one of the problems, and one with the highest precedence; it
is absent if there is no problem. -/
structure Tops (problems : String → Prop) (reason : Option String) :
    Prop where
  highest : ∀ top, reason = some top →
    problems top ∧ ∀ other, problems other →
      poolDegradedPrecedence other ≤ poolDegradedPrecedence top
  absent : reason = none → ∀ other, ¬ problems other

section Tops

variable {problems : String → Prop} {now : Time} {reason : String}
  {pool pool' : BootcNodePool}

theorem Tops.setPoolDegraded
    (tops : Tops problems (degradedReason pool)) (message : String) :
    Tops (fun other => problems other ∨ other = reason)
      (degradedReason (setPoolDegraded now reason message pool)) := by
  by_cases outranked : Outranked pool reason
  · rw [setPoolDegraded_of_outranked now message outranked]
    obtain ⟨current, isCurrent, lower⟩ := outranked
    refine ⟨fun top isTop => ?_, fun isNone => ?_⟩
    · rw [isCurrent, Option.some.injEq] at isTop
      subst isTop
      obtain ⟨isProblem, highest⟩ := tops.highest current isCurrent
      refine ⟨.inl isProblem, ?_⟩
      rintro other (problem | rfl)
      · exact highest other problem
      · exact lower.le
    · rw [isCurrent] at isNone
      cases isNone
  · rw [degradedReason_setPoolDegraded now message outranked]
    refine ⟨fun top isTop => ?_, fun isNone => by cases isNone⟩
    cases isTop
    refine ⟨.inr rfl, ?_⟩
    rintro other (problem | rfl)
    · cases isCurrent : degradedReason pool with
      | none => exact absurd problem (tops.absent isCurrent other)
      | some current =>
          have notLower : ¬ poolDegradedPrecedence reason <
              poolDegradedPrecedence current :=
            fun lower => outranked ⟨current, isCurrent, lower⟩
          exact ((tops.highest current isCurrent).2 other problem).trans
            (not_lt.mp notLower)
    · exact le_rfl

theorem Tops.congr
    {problems' : String → Prop} {current : Option String}
    (tops : Tops problems current)
    (same : ∀ other, problems' other ↔ problems other) :
    Tops problems' current := by
  refine ⟨fun top isTop => ?_, fun isNone other problem => ?_⟩
  · obtain ⟨isProblem, highest⟩ := tops.highest top isTop
    exact ⟨(same top).mpr isProblem, fun other problem =>
      highest other ((same other).mp problem)⟩
  · exact tops.absent isNone other ((same other).mp problem)

theorem Tops.reported
    {problem : Prop} (tops : Tops problems (degradedReason pool))
    (reported : Raised now reason problem pool pool') :
    Tops (fun other => problems other ∨ (other = reason ∧ problem))
      (degradedReason pool') := by
  cases reported with
  | found message holds =>
      exact (tops.setPoolDegraded message).congr fun other => by simp [holds]
  | absent fails => exact tops.congr fun other => by simp [fails]

end Tops

/-! ## The last resolution of the tag -/

/-- Whether the last attempt to resolve the tag has failed, with no success
and no digest reference since. -/
def failingAfter (r : BootcNodePoolReconciler) (env : Env) (w : World)
    (pool : BootcNodePool) (failing : Bool) : Bool :=
  match r.settle env w pool with
  | none => failing
  | some resolution =>
      match resolution.answer with
      | some (.error _) => true
      | some (.ok _) => false
      | none =>
          if (r.references.digestOf pool.spec.imageRef).isSome then false
          else failing

section Resolution

variable {r : BootcNodePoolReconciler} {env : Env} {w : World}
  {pool : BootcNodePool} {resolution : Resolution}

theorem degradedReason_congr (status : q.status = p.status) :
    degradedReason q = degradedReason p := by
  unfold degradedReason
  rw [status]

/-- The three ways in which a target is settled. -/
theorem settle_cases (settled : r.settle env w pool = some resolution) :
    (∃ digest, r.references.digestOf pool.spec.imageRef = some digest ∧
      resolution.answer = none ∧
      degradedReason resolution.pool =
        degradedReason (clearPoolDegradedReason env.now
          poolTagResolutionError
          (clearPoolDegradedReason env.now poolSecretError pool))) ∨
    (r.references.digestOf pool.spec.imageRef = none ∧
      isResolutionDue pool env.now = true ∧ ∃ answer,
        resolution.answer = some answer ∧
        degradedReason resolution.pool =
          degradedReason (applyAnswer env.now answer
            (clearPoolDegradedReason env.now poolSecretError pool))) ∨
    (r.references.digestOf pool.spec.imageRef = none ∧
      isResolutionDue pool env.now = false ∧ resolution.answer = none ∧
      resolution.pool =
        clearPoolDegradedReason env.now poolSecretError pool) := by
  obtain ⟨secretData, _, resolved⟩ := settle_eq_some settled
  have spec := ((BootcNodePool.SameTarget.refl pool).clearPoolDegradedReason
    env.now poolSecretError).spec
  have next := nextTagResolutionTime_clearPoolDegradedReason env.now
    poolSecretError pool
  unfold resolveTargetDigest at resolved
  unfold ReferenceLibrary.digestOf isResolutionDue
  rw [spec, next] at resolved
  cases parsed : r.references.parseNamed pool.spec.imageRef with
  | error err =>
      rw [parsed] at resolved
      cases resolved
  | ok named =>
      simp only [parsed] at resolved
      cases digested : named.digest with
      | some digest =>
          simp only [digested, Except.ok.injEq] at resolved
          subst resolved
          refine .inl ⟨digest, digested, rfl, ?_⟩
          rw [degradedReason_clearPoolDegradedReason,
            degradedReason_clearPoolDegradedReason]
          rfl
      | none =>
          simp only [digested] at resolved
          cases due : pool.status.nextTagResolutionTime with
          | none =>
              simp only [due, Except.ok.injEq] at resolved
              subst resolved
              exact .inr (.inl ⟨digested, rfl, _, rfl, rfl⟩)
          | some next =>
              simp only [due] at resolved
              split at resolved
              · next early =>
                  cases resolved
                  exact .inr (.inr ⟨digested, by simp [early], rfl, rfl⟩)
              · next late =>
                  cases resolved
                  exact .inr (.inl ⟨digested, by simp [late], _, rfl, rfl⟩)

theorem poolDegradedPrecedence_le (reason : String) :
    poolDegradedPrecedence reason ≤
      poolDegradedPrecedence poolTagResolutionError := by
  have highest : poolDegradedPrecedence poolTagResolutionError = 6 := by decide
  rw [highest]
  unfold poolDegradedPrecedence
  split_ifs <;> omega

/-- Nothing outranks a failed tag resolution. -/
theorem degradedReason_failed (now : Time) (message : String) :
    degradedReason
        (setPoolDegraded now poolTagResolutionError message pool) =
      some poolTagResolutionError := by
  refine degradedReason_setPoolDegraded now message ?_
  rintro ⟨current, _, lower⟩
  exact absurd lower (not_lt.mpr (poolDegradedPrecedence_le current))

/-- The reason that is left when the target is settled: a failed resolution,
or what was persisted. -/
theorem settled_reason
    (settled : r.settle env w pool = some resolution) {reason : String}
    (isReason : degradedReason resolution.pool = some reason) :
    reason = poolTagResolutionError ∨
      (reason ≠ poolSecretError ∧ degradedReason pool = some reason) := by
  have cleared {reason : String} (isReason : degradedReason
      (clearPoolDegradedReason env.now poolSecretError pool) = some reason) :
      reason ≠ poolSecretError ∧ degradedReason pool = some reason := by
    rw [degradedReason_clearPoolDegradedReason] at isReason
    split at isReason
    · cases isReason
    · next other =>
        refine ⟨fun isSecret => other ?_, isReason⟩
        rw [isReason, isSecret]
  have forgotten {pool' : BootcNodePool} (isReason : degradedReason
      (clearPoolDegradedReason env.now poolTagResolutionError pool') =
        some reason) : degradedReason pool' = some reason := by
    rw [degradedReason_clearPoolDegradedReason] at isReason
    split at isReason
    · cases isReason
    · exact isReason
  rcases settle_cases settled with ⟨_, _, _, same⟩ | ⟨_, _, answer, _, same⟩ |
    ⟨_, _, _, same⟩
  · rw [same] at isReason
    exact .inr (cleared (forgotten isReason))
  · rw [same] at isReason
    cases answer with
    | error err =>
        rw [applyAnswer, degradedReason_failed, Option.some.injEq] at isReason
        exact .inl isReason.symm
    | ok digest =>
        have kept := forgotten isReason
        exact .inr (cleared kept)
  · rw [same] at isReason
    exact .inr (cleared isReason)

/-- The settled pool reports a failed resolution exactly if the last attempt
has failed. -/
theorem settled_tag
    (settled : r.settle env w pool = some resolution)
    (carried : r.references.digestOf pool.spec.imageRef = none →
      isResolutionDue pool env.now = false →
        (degradedReason pool = some poolTagResolutionError ↔
          failing = true)) :
    degradedReason resolution.pool = some poolTagResolutionError ↔
      failingAfter r env w pool failing = true := by
  have forgotten {pool' : BootcNodePool} : degradedReason
      (clearPoolDegradedReason env.now poolTagResolutionError pool') ≠
        some poolTagResolutionError := by
    rw [degradedReason_clearPoolDegradedReason]
    split
    · simp
    · next other => exact other
  unfold failingAfter
  rcases settle_cases settled with ⟨digest, isDigest, unanswered, same⟩ |
    ⟨_, _, answer, answered, same⟩ | ⟨isTag, notDue, unanswered, same⟩
  · simp [settled, unanswered, isDigest, same, forgotten]
  · cases answer with
    | error err =>
        simp [settled, answered, same, applyAnswer, degradedReason_failed]
    | ok digest =>
        simp only [settled, answered, same, applyAnswer, Bool.false_eq_true,
          iff_false]
        exact forgotten
  · simp only [settled, unanswered, isTag, Option.isSome_none,
      Bool.false_eq_true, if_false, same]
    rw [← carried isTag notDue]
    exact (KeepsTag.clearPoolDegradedReason (by decide)).tag

/-- Once the reasons of the rollout are cleared, only a failed resolution is
left. -/
theorem tops_of_settled
    (settled : r.settle env w pool = some resolution)
    (known : HasKnownReason pool)
    (tag : degradedReason resolution.pool = some poolTagResolutionError ↔
      failing = true) :
    Tops (fun reason => reason = poolTagResolutionError ∧ failing = true)
      (degradedReason (clearRolloutReasons env.now resolution.pool)) := by
  have keeps : KeepsTag resolution.pool
      (clearRolloutReasons env.now resolution.pool) := .clearRolloutReasons
  have only : ∀ reason,
      degradedReason (clearRolloutReasons env.now resolution.pool) =
        some reason → reason = poolTagResolutionError := by
    intro reason isReason
    simp only [clearRolloutReasons, degradedReason_clearPoolDegradedReason]
      at isReason
    split_ifs at isReason with invalid halted degraded conflict
    rcases settled_reason settled isReason with isTag | ⟨notSecret, persisted⟩
    · exact isTag
    · have isKnown := known reason persisted
      simp only [poolReasons, List.mem_cons, List.not_mem_nil, or_false]
        at isKnown
      rcases isKnown with rfl | rfl | rfl | rfl | rfl | rfl <;> simp_all
  refine ⟨fun top isTop => ?_, fun isNone other problem => ?_⟩
  · obtain rfl := only top isTop
    refine ⟨⟨rfl, tag.mp (keeps.tag.mp isTop)⟩, ?_⟩
    rintro other ⟨rfl, _⟩
    exact le_rfl
  · have isTag := keeps.tag.mpr (tag.mpr problem.2)
    rw [isNone] at isTag
    cases isTag

end Resolution

/-! ## Runs -/

/-- What the Degraded condition of one pool is compared with. -/
structure TruthRun where
  world : World
  /-- the last attempt to resolve the tag has failed, and neither a success
  nor a digest reference came since -/
  failing : Bool
  /-- the clock at the last `Reconcile` -/
  time : Time

inductive TruthAction where
  | reconcile (env : Env)
  /-- everyone else leaves this world behind -/
  | others (world : World)

def truthMachine (r : BootcNodePoolReconciler) (request : String) :
    Machine TruthRun TruthAction where
  step s
    | .reconcile env =>
        some
          { world := (r.reconcile env request (.start s.world)).2.world
            failing :=
              match s.world.api.pool request with
              | some pool => failingAfter r env s.world pool s.failing
              | none => s.failing
            time := env.now }
    | .others world => some { s with world := world }

/-- The runs under consideration: reads see all earlier writes, the clock does
not go back, and nobody else writes the status of the pool. -/
def TruthStep (request : String) (s : TruthRun) : TruthAction → Prop
  | .reconcile env => env.Faithful s.world ∧ s.time ≤ env.now
  | .others world =>
      (world.api.pool request).map (·.status) =
        (s.world.api.pool request).map (·.status)

/-- While a failed resolution is on record, nobody replaces a digest reference
by anything but another digest reference. -/
def KeepsDigestRef (r : BootcNodePoolReconciler) (request : String)
    (s : TruthRun) : TruthAction → Prop
  | .reconcile _ => True
  | .others world =>
      ∀ pool pool', s.world.api.pool request = some pool →
        world.api.pool request = some pool' →
        degradedReason pool = some poolTagResolutionError →
        (r.references.digestOf pool.spec.imageRef).isSome = true →
          (r.references.digestOf pool'.spec.imageRef).isSome = true

/-- The persisted condition tells whether the last resolution has failed,
unless the tag is due again anyway, or a digest reference came and a failed
resolution is still on record. -/
structure TagOnRecord (r : BootcNodePoolReconciler) (pool : BootcNodePool)
    (failing : Bool) (time : Time) : Prop where
  known : HasKnownReason pool
  tag : (degradedReason pool = some poolTagResolutionError ↔
      failing = true) ∨
    isResolutionDue pool time = true ∨
    (degradedReason pool = some poolTagResolutionError ∧
      (r.references.digestOf pool.spec.imageRef).isSome = true)

variable {s : TruthRun}

section Runs

variable {r : BootcNodePoolReconciler} {request : String} {env : Env}
  {w : World} {pool : BootcNodePool} {time : Time}

theorem isResolutionDue_mono
    {now : Time} (later : time ≤ now)
    (due : isResolutionDue pool time = true) :
    isResolutionDue pool now = true := by
  unfold isResolutionDue at *
  split
  · next next isNext =>
      rw [isNext] at due
      have passed : ¬ time < next := by simpa using due
      have stillPassed : ¬ now < next := fun early =>
        passed (lt_of_le_of_lt later early)
      simpa using stillPassed
  · rfl

theorem isResolutionDue_congr
    (next : q.status.nextTagResolutionTime =
      pool.status.nextTagResolutionTime) :
    isResolutionDue q time = isResolutionDue pool time := by
  unfold isResolutionDue
  rw [next]

theorem HasKnownReason.congr
    (known : HasKnownReason pool)
    (same : degradedReason q = degradedReason pool) : HasKnownReason q :=
  fun reason isReason => known reason (same ▸ isReason)

/-- What is carried over when the tag is not due. -/
theorem TagOnRecord.carried
    (onRecord : TagOnRecord r pool failing time) (later : time ≤ env.now) :
    r.references.digestOf pool.spec.imageRef = none →
      isResolutionDue pool env.now = false →
        (degradedReason pool = some poolTagResolutionError ↔
          failing = true) := by
  intro isTag notDue
  rcases onRecord.tag with carried | due | ⟨_, isDigest⟩
  · exact carried
  · rw [isResolutionDue_mono later due] at notDue
    cases notDue
  · rw [isTag] at isDigest
    cases isDigest

/-- A `Reconcile` that does not write its status. -/
theorem TagOnRecord.unwritten
    (onRecord : TagOnRecord r pool failing time) (later : time ≤ env.now) :
    TagOnRecord r pool (failingAfter r env w pool failing) env.now := by
  have same : TagOnRecord r pool failing env.now :=
    ⟨onRecord.known, onRecord.tag.imp_right (.imp_left
      (isResolutionDue_mono later))⟩
  cases settled : r.settle env w pool with
  | none =>
      unfold failingAfter
      rw [settled]
      exact same
  | some resolution =>
      refine ⟨onRecord.known, ?_⟩
      rcases settle_cases settled with ⟨digest, isDigest, unanswered, _⟩ |
        ⟨_, due, _⟩ | ⟨isTag, _, unanswered, _⟩
      · by_cases isFailed : degradedReason pool = some poolTagResolutionError
        · exact .inr (.inr ⟨isFailed, by simp [isDigest]⟩)
        · left
          simp [failingAfter, settled, unanswered, isDigest, isFailed]
      · exact .inr (.inl due)
      · have unchanged : failingAfter r env w pool failing = failing := by
          simp [failingAfter, settled, unanswered, isTag]
        rw [unchanged]
        exact same.tag

/-- A `Reconcile` that writes the pool it has in memory. -/
theorem TagOnRecord.written
    (onRecord : TagOnRecord r pool failing time) (later : time ≤ env.now)
    {written : BootcNodePool}
    (keeps : KeepsTag (r.settledPool env w pool) written) :
    TagOnRecord r written (failingAfter r env w pool failing) env.now := by
  unfold settledPool at keeps
  cases settled : r.settle env w pool with
  | none =>
      simp only [settled] at keeps
      unfold failingAfter
      rw [settled]
      refine ⟨keeps.known onRecord.known, ?_⟩
      dsimp only
      rw [keeps.tag, isResolutionDue_congr keeps.next, keeps.spec]
      exact onRecord.tag.imp_right (.imp_left (isResolutionDue_mono later))
  | some resolution =>
      simp only [settled] at keeps
      refine ⟨keeps.known fun reason isReason => ?_, .inl ?_⟩
      · rcases settled_reason settled isReason with isTag | ⟨_, persisted⟩
        · rw [isTag]
          decide
        · exact onRecord.known reason persisted
      · rw [keeps.tag]
        exact settled_tag settled (onRecord.carried later)

theorem TagOnRecord.congr
    (onRecord : TagOnRecord r pool failing time)
    (status : q.status = pool.status)
    (digest : degradedReason pool = some poolTagResolutionError →
      (r.references.digestOf pool.spec.imageRef).isSome = true →
        (r.references.digestOf q.spec.imageRef).isSome = true) :
    TagOnRecord r q failing time := by
  have reason := degradedReason_congr status
  refine ⟨onRecord.known.congr reason, ?_⟩
  rw [reason, isResolutionDue_congr (congrArg _ status)]
  exact onRecord.tag.imp_right (.imp_right fun ⟨isTag, isDigest⟩ =>
    ⟨isTag, digest isTag isDigest⟩)

/-- `TagOnRecord` for the stored pool. -/
def TruthOnRecord (r : BootcNodePoolReconciler) (request : String)
    (s : TruthRun) : Prop :=
  ∀ pool, s.world.api.pool request = some pool →
    TagOnRecord r pool s.failing s.time

theorem TruthOnRecord.step
    {s' : TruthRun} {action : TruthAction}
    (onRecord : TruthOnRecord r request s)
    (meets : TruthStep request s action ∧ KeepsDigestRef r request s action)
    (stepped : (truthMachine r request).step s action = some s') :
    TruthOnRecord r request s' := by
  cases action with
  | others world =>
      cases stepped
      intro pool' stored'
      obtain ⟨sameStatus, keepsDigest⟩ := meets
      rw [TruthStep, stored', Option.map_some, eq_comm,
        Option.map_eq_some_iff] at sameStatus
      obtain ⟨pool, stored, status⟩ := sameStatus
      exact (onRecord pool stored).congr status.symm
        (keepsDigest pool pool' stored stored')
  | reconcile env =>
      cases stepped
      intro q isStored
      obtain ⟨⟨faithful, later⟩, _⟩ := meets
      dsimp only at isStored ⊢
      cases stored : s.world.api.pool request with
      | none =>
          rw [r.reconcile_of_missing request faithful stored] at isStored
          rw [show (PassState.start s.world).world = s.world from rfl,
            stored] at isStored
          cases isStored
      | some pool =>
          have here := onRecord pool stored
          obtain ⟨spec, unwritten | ⟨written, keeps, status⟩⟩ :=
            record_of_reconcile r faithful stored isStored
          · exact (here.unwritten later).congr unwritten fun _ isDigest =>
              spec ▸ isDigest
          · have onWritten := here.written later keeps
            refine onWritten.congr status fun _ isDigest => ?_
            have sameSpec : written.spec = q.spec :=
              (keeps.spec.trans (r.settledPool_keeps env s.world pool).2.2).trans
                spec.symm
            exact sameSpec ▸ isDigest

end Runs

/-! ## The full path -/

/-- The reference library finds the digest that a text ends with. -/
def CanonicalDigests (lib : ReferenceLibrary) : Prop :=
  ∀ ref named digest found, lib.parseNamed ref = .ok named →
    lib.digestOf (named.trimmed ++ "@" ++ digest) = some found →
      found = digest

/-- A selected node is controlled by another pool. -/
def HasConflict (r : BootcNodePoolReconciler) (pool : BootcNodePool)
    (w : World) : Prop :=
  ∃ selector, r.labelSelectorAsSelector pool.spec.nodeSelector =
      .ok selector ∧
    ∃ name ref,
      Conflicts pool (selectedNodes selector w) w.api.bootcNode name ref

/-- The problems of a pool: `before` is the world in which the `Reconcile`
starts and `after` the one it leaves behind. -/
inductive PoolProblem (r : BootcNodePoolReconciler) (now : Time)
    (pool : BootcNodePool) (failing : Bool) (before after : World) :
    String → Prop
  | resolution :
      failing = true →
      PoolProblem r now pool failing before after poolTagResolutionError
  | conflict :
      HasConflict r pool before →
      PoolProblem r now pool failing before after poolNodeConflict
  | degraded :
      HasDegradedNode r.references pool now after →
      PoolProblem r now pool failing before after poolNodeDegraded
  | unhealthy :
      2 ≤ (unhealthySlots r.references pool now after).encard →
      PoolProblem r now pool failing before after poolRolloutHalted

/-- The Degraded condition is True exactly if there is a problem, and its
reason is one with the highest precedence. -/
structure DegradedTruthful (pool : BootcNodePool)
    (problems : String → Prop) : Prop where
  isTrue_iff :
    isStatusConditionTrue pool.status.conditions poolDegraded = true ↔
      ∃ reason, problems reason
  highest : ∀ condition,
    findStatusCondition pool.status.conditions poolDegraded =
      some condition → condition.status = .conditionTrue →
    problems condition.reason ∧ ∀ other, problems other →
      poolDegradedPrecedence other ≤ poolDegradedPrecedence condition.reason

theorem Tops.truthful
    {pool : BootcNodePool} {problems : String → Prop}
    (tops : Tops problems (degradedReason pool)) :
    DegradedTruthful pool problems := by
  unfold degradedReason at tops
  refine ⟨?_, fun condition found isTrue => ?_⟩
  · unfold isStatusConditionTrue isStatusConditionPresentAndEqual
    cases found : findStatusCondition pool.status.conditions poolDegraded with
    | none =>
        rw [found] at tops
        simpa using tops.absent rfl
    | some condition =>
        simp only [found] at tops
        by_cases isTrue : condition.status = .conditionTrue
        · rw [if_pos isTrue] at tops
          simpa [isTrue] using ⟨_, (tops.highest _ rfl).1⟩
        · rw [if_neg isTrue] at tops
          simpa [isTrue] using tops.absent rfl
  · rw [found] at tops
    simp only [isTrue, if_true] at tops
    exact tops.highest _ rfl

section FullPath

variable {r : BootcNodePoolReconciler} {env : Env} {request : String}
  {w : World}

variable {s' s : PassState}

/-- `syncMembership` returns only with a valid selector. -/
theorem exists_selector_of_synced
    (synced : r.syncMembership env s = (.ok (), s')) :
    ∃ selector, r.labelSelectorAsSelector s.pool.spec.nodeSelector =
      .ok selector := by
  cases valid : r.labelSelectorAsSelector s.pool.spec.nodeSelector with
  | ok selector => exact ⟨selector, rfl⟩
  | error err =>
      obtain ⟨matching, s₁, listed, _⟩ := ok_of_bind synced
      obtain ⟨pool, s₂, isRead, listed⟩ :=
        ok_of_bind (ok_of_mapError listed)
      cases isRead
      rw [valid] at listed
      cases listed

theorem Conflicts.congr
    (uid : p.uid = q.uid) (matching : String → Option Node)
    (bootcNodes : String → Option BootcNode) (name : String)
    (ref : OwnerReference) :
    Conflicts p matching bootcNodes name ref ↔
      Conflicts q matching bootcNodes name ref := by
  simp only [Conflicts, BootcNode.isControlledBy, uid]

/-- `syncMembership` reports a conflict if there is one. -/
theorem syncMembership_reported
    (faithful : env.Faithful s.world) (uid : s.pool.uid = pool.uid)
    (spec : s.pool.spec = pool.spec)
    (synced : r.syncMembership env s = (.ok (), s')) :
    Raised env.now poolNodeConflict (HasConflict r pool s.world) s.pool
      s'.pool := by
  obtain ⟨selector, valid⟩ := exists_selector_of_synced synced
  obtain ⟨s₂, s₃, conflicting, members⟩ :=
    (yields_syncMembership AnyError.tolerant.yields faithful
      valid).returns rfl synced
  have found : HasConflict r pool s.world ↔ conflicting ≠ [] := by
    rw [Ne, List.eq_nil_iff_forall_not_mem, not_forall]
    simp only [not_not, members.conflict_iff faithful, HasConflict, ← spec,
      valid, Except.ok.injEq, exists_eq_left', Conflicts.congr uid]
    constructor
    · rintro ⟨name, ref, isConflict⟩
      exact ⟨ref.name, name, ref, isConflict, rfl⟩
    · rintro ⟨_, name, ref, isConflict, _⟩
      exact ⟨name, ref, isConflict⟩
  rw [members.pool_eq]
  split
  · next none_ =>
      exact .absent fun conflict => found.mp conflict none_
  · next some_ => exact .found _ (found.mpr some_)

/-- The image of a settled pool has the digest of the target. -/
theorem digestOf_desiredImage
    (canonical : CanonicalDigests r.references)
    (settled : r.settle env w pool = some resolution) {digest : String}
    (isDigest : r.references.digestOf
      (r.desiredImageFromPool resolution.pool) = some digest) :
    digest = resolution.pool.status.targetDigest := by
  obtain ⟨secretData, _, resolved⟩ := settle_eq_some settled
  have spec := (resolveTargetDigest_keeps resolved).2.2
  unfold desiredImageFromPool at isDigest
  rw [spec] at isDigest
  unfold resolveTargetDigest at resolved
  cases parsed : r.references.parseNamed
      (clearPoolDegradedReason env.now poolSecretError pool).spec.imageRef with
  | error err =>
      rw [parsed] at resolved
      cases resolved
  | ok named =>
      rw [parsed] at isDigest
      exact canonical _ named _ digest parsed isDigest

theorem FullPath.stored
    (full : FullPath r env request w) (faithful : env.Faithful w) :
    w.api.pool request = some full.pool := by
  rw [← full.reads.read, faithful.fresh]

/-- What a pass on the full path has reported when its rollout returns. -/
theorem fullPath_reported
    (faithful : env.Faithful w) (canonical : CanonicalDigests r.references)
    (full : FullPath r env request w) :
    ∃ synced judged,
      Raised env.now poolNodeConflict (HasConflict r full.pool w)
        (clearRolloutReasons env.now full.resolution.pool) synced ∧
      Raised env.now poolNodeDegraded
        (HasDegradedNode r.references full.resolution.pool env.now
          full.driven.world) synced judged ∧
      Raised env.now poolRolloutHalted
        (2 ≤ (unhealthySlots r.references full.resolution.pool env.now
          full.driven.world).encard) judged full.driven.pool ∧
      full.driven.pool.SameTarget full.resolution.pool ∧
      full.driven.world.api.pool request = some full.pool := by
  have stored := full.stored faithful
  obtain ⟨pool, reads, resolution, settled, hasTarget, synced, isSynced,
    recorded, isRecorded, final, isDriven⟩ := full
  dsimp only at stored ⊢
  obtain ⟨_, sameWorld, _⟩ := settledState_spec env w pool resolution
  have isPool : (r.contextOf env request w).pool = resolution.pool := by
    rw [contextOf_pool r request env stored, settledPool, settled]
  have ready := ready_of_settled r faithful ⟨reads, stored⟩ settled hasTarget
  -- the memory before and after the rollout
  let within (seen : Seen) : Prop :=
    ∀ loop, seen.world.Within (env.order loop)
  have keeps : ∀ {seen seen'},
      Step (r.contextOf env request w) false seen seen' →
      within seen → within seen' :=
    fun step kept loop => step.within (kept loop)
  have records : (regime (r.contextOf env request w)).Follows
      (Targets (r.contextOf env request w) none) (recordNodeEvents env)
      (fun _ s => Targets (r.contextOf env request w) none s) AnyError :=
    follows_recordNodeEvents
  have targets₁ := (follows_syncMembership.withInvariant within keeps).returns
    ⟨ready, ready.faithful.covers⟩ isSynced
  have targets₂ := (records.withInvariant within keeps).returns targets₁
    isRecorded
  have recalls := (follows_driveRollout faithful.fresh).returns
    ⟨targets₂.1, targets₂.2 _⟩ isDriven
  -- the pool in memory
  have keepsPool := r.settledPool_keeps env w pool
  rw [settledPool, settled] at keepsPool
  dsimp only at keepsPool
  have cleared : (clearRolloutReasons env.now resolution.pool).SameTarget
      resolution.pool := SameTarget.clearRolloutReasons (.refl _) env.now
  have conflict := syncMembership_reported ready.faithful
    (cleared.uid.trans keepsPool.2.1) (cleared.spec.trans keepsPool.2.2)
    isSynced
  have quiet := quiet_recordNodeEvents env synced
  rw [isRecorded] at quiet
  have pool₂ : recorded.pool = synced.pool :=
    congrArg Findings.pool quiet.findings
  obtain ⟨judged, degraded, halted, stored₃⟩ := driveRollout_reported
    faithful.fresh (faithful.nodup _)
    (fun digest isDigest => by
      unfold PassContext.desiredImage at isDigest
      rw [isPool] at isDigest ⊢
      exact digestOf_desiredImage canonical settled isDigest)
    targets₂.1 (targets₂.2 _) isDriven
  rw [isPool, pool₂] at degraded
  rw [isPool] at halted
  -- the pool in the API server
  have carried : Carried fun s => s.world.api.pool request = some pool := by
    intro s s' same _ isStored
    rw [same]
    exact isStored
  have stored₀ : (clearedState env w pool resolution).world.api.pool request =
      some pool := by
    rw [clearedState, sameWorld]
    exact stored
  have stored₁ : synced.world.api.pool request = some pool :=
    Regime.Follows.returns (carried.syncMembership r) stored₀ isSynced
  have stored₂ : recorded.world.api.pool = synced.world.api.pool :=
    congrArg Findings.storedPools quiet.findings
  refine ⟨synced.pool, judged, ?_, degraded, halted, ?_, ?_⟩
  · rw [clearedState] at conflict
    dsimp only at conflict
    rw [sameWorld] at conflict
    exact conflict
  · rw [← isPool]
    exact recalls.target
  · rw [stored₃, stored₂]
    exact stored₁

/-- What the end of a pass leaves behind when it returns. -/
theorem finishPass_returned
    {stored : BootcNodePool}
    (isStored : s.world.api.pool request = some stored)
    {tagTargetChanged : Bool} {requeueAfter requeued : Duration}
    (returned : finishPass env request stored.status tagTargetChanged
      requeueAfter s = (.ok requeued, s')) :
    s'.world.api.bootcNode = s.world.api.bootcNode ∧ ∃ rs,
      s'.world.api.pool request =
        some
          { stored with
            status := (syncPoolStatus env.now rs s.pool).status } := by
  have bootcNodes : Keeping (fun s : PassState => s.world.api.bootcNode) s
      (finishPass env request stored.status tagTargetChanged requeueAfter
        s).2 := keepsBootcNodes_finishPass env request s
  rw [returned] at bootcNodes
  refine ⟨bootcNodes, ?_⟩
  unfold finishPass at returned
  obtain ⟨stallCheck, s₁, recorded, returned⟩ := ok_of_bind returned
  obtain ⟨_, s₂, updated, returned⟩ := ok_of_bind returned
  obtain ⟨rs, _, isRead, returned⟩ := ok_of_bind returned
  cases updated
  cases isRead
  have quiet := quiet_recordDrainStalls env (.self _) s
  rw [recorded] at quiet
  have pool₁ : s₁.pool = s.pool := congrArg Findings.pool quiet.findings
  have stored₁ : s₁.world.api.pool = s.world.api.pool :=
    congrArg Findings.storedPools quiet.findings
  rw [← stored₁] at isStored
  refine ⟨s₁.rs, ?_⟩
  rw [← pool₁]
  exact stored_of_complete
    (s := { s₁ with pool := syncPoolStatus env.now s₁.rs s₁.pool })
    isStored returned

theorem poolProblem_iff
    (same : q.SameTarget p) (uid : p.uid = pool.uid)
    (spec : p.spec = pool.spec) {after after' : World}
    (bootcNodes : after'.api.bootcNode = after.api.bootcNode) (reason : String) :
    PoolProblem r env.now q failing w after' reason ↔
      (((reason = poolTagResolutionError ∧ failing = true) ∨
        (reason = poolNodeConflict ∧ HasConflict r pool w)) ∨
        (reason = poolNodeDegraded ∧
          HasDegradedNode r.references p env.now after)) ∨
        (reason = poolRolloutHalted ∧
          2 ≤ (unhealthySlots r.references p env.now after).encard) := by
  have conflict : HasConflict r q w ↔ HasConflict r pool w := by
    simp only [HasConflict, same.spec, spec,
      Conflicts.congr (same.uid.trans uid)]
  have degraded : HasDegradedNode r.references q env.now after' ↔
      HasDegradedNode r.references p env.now after := by
    rw [HasDegradedNode.congr same]
    simp only [HasDegradedNode, bootcNodes]
  have unhealthy : unhealthySlots r.references q env.now after' =
      unhealthySlots r.references p env.now after := by
    rw [unhealthySlots_congr same]
    simp only [unhealthySlots, bootcNodes]
  rw [← conflict, ← degraded, ← unhealthy]
  constructor
  · rintro (isFailing | isConflict | isDegraded | isUnhealthy)
    · exact .inl (.inl (.inl ⟨rfl, isFailing⟩))
    · exact .inl (.inl (.inr ⟨rfl, isConflict⟩))
    · exact .inl (.inr ⟨rfl, isDegraded⟩)
    · exact .inr ⟨rfl, isUnhealthy⟩
  · rintro (((⟨rfl, isFailing⟩ | ⟨rfl, isConflict⟩) | ⟨rfl, isDegraded⟩) |
      ⟨rfl, isUnhealthy⟩)
    · exact .resolution isFailing
    · exact .conflict isConflict
    · exact .degraded isDegraded
    · exact .unhealthy isUnhealthy

/-- The condition that a `Reconcile` on the full path leaves behind. -/
theorem truthful_of_fullPath
    (faithful : env.Faithful w) (canonical : CanonicalDigests r.references)
    {time : Time} (full : FullPath r env request w)
    (onRecord : TagOnRecord r full.pool failing time) (later : time ≤ env.now)
    {requeued : Duration}
    (returned : r.reconcile env request (.start w) = (.ok requeued, s')) :
    ∃ pool', s'.world.api.pool request = some pool' ∧
      DegradedTruthful pool'
        (PoolProblem r env.now pool'
          (failingAfter r env w full.pool failing) w s'.world) := by
  obtain ⟨synced, judged, conflict, degraded, halted, same, stored⟩ :=
    fullPath_reported faithful canonical full
  rw [reconcile_of_fullPath r full] at returned
  obtain ⟨bootcNodes, rs, persisted⟩ := finishPass_returned stored returned
  have keepsPool := r.settledPool_keeps env w full.pool
  rw [settledPool, full.settled] at keepsPool
  dsimp only at keepsPool
  have synchronised := SameTarget.syncPoolStatus same env.now rs
  refine ⟨_, persisted, Tops.truthful ?_⟩
  have tops := tops_of_settled full.settled onRecord.known
    (settled_tag full.settled (onRecord.carried later))
  have reported := ((tops.reported conflict).reported degraded).reported halted
  have reason : degradedReason
      { full.pool with
        status := (syncPoolStatus env.now rs full.driven.pool).status } =
        degradedReason full.driven.pool :=
    (degradedReason_congr rfl).trans (degradedReason_syncPoolStatus rs)
  rw [reason]
  refine reported.congr (poolProblem_iff ?_ keepsPool.2.1 keepsPool.2.2
    bootcNodes)
  exact ⟨keepsPool.1.symm, keepsPool.2.1.symm, keepsPool.2.2.symm,
    synchronised.targetDigest⟩

end FullPath

/-- Nothing has failed, and the pool has no condition yet. -/
def Unconditioned (request : String) (s : TruthRun) : Prop :=
  s.failing = false ∧ ∀ pool, s.world.api.pool request = some pool →
    pool.status.conditions = []

theorem Unconditioned.onRecord
    {r : BootcNodePoolReconciler} {request : String}
    (unconditioned : Unconditioned request s) : TruthOnRecord r request s := by
  intro pool stored
  have reason : degradedReason pool = none := by
    unfold degradedReason
    rw [unconditioned.2 pool stored]
    rfl
  refine ⟨fun _ isReason => ?_, .inl ?_⟩
  · rw [reason] at isReason
    cases isReason
  · simp [reason, unconditioned.1]

/-- In every run in which nobody goes back from a digest reference while a
failed resolution is on record, a `Reconcile` that gets to the end of the full
path leaves a truthful Degraded condition behind. -/
theorem degraded_truthful
    (r : BootcNodePoolReconciler) (request : String)
    (canonical : CanonicalDigests r.references)
    {s₀ s : TruthRun} {actions : List TruthAction}
    (start : Unconditioned request s₀)
    (path : (truthMachine r request).Path
      (fun s action => TruthStep request s action ∧
        KeepsDigestRef r request s action) s₀ actions s)
    {env : Env} (faithful : env.Faithful s.world) (later : s.time ≤ env.now)
    (full : FullPath r env request s.world)
    {requeued : Duration} {s' : PassState}
    (returned : r.reconcile env request (.start s.world) =
      (.ok requeued, s')) :
    ∃ pool', s'.world.api.pool request = some pool' ∧
      DegradedTruthful pool'
        (PoolProblem r env.now pool'
          (failingAfter r env s.world full.pool s.failing) s.world
          s'.world) := by
  have onRecord : TruthOnRecord r request s :=
    path.invariant (TruthOnRecord r request)
      (fun holds meets stepped => holds.step meets stepped) start.onRecord
  exact truthful_of_fullPath faithful canonical full
    (onRecord full.pool (full.stored faithful)) later returned

/-! ## A degraded node, and a condition that is left over -/

/-- The `Reconcile` of the live pool gets past every early return. -/
def reachesEnd (r : BootcNodePoolReconciler) (env : Env) (request : String)
    (w : World) : Bool :=
  match w.api.pool request with
  | none => false
  | some pool =>
      isLive pool &&
        match r.settle env w pool with
        | none => false
        | some resolution =>
            let synced := r.syncMembership env
              (clearedState env w pool resolution)
            let recorded := recordNodeEvents env synced.2
            let driven := r.driveRollout env recorded.2
            resolution.pool.status.targetDigest != "" && synced.1.isOk &&
              recorded.1.isOk && driven.1.isOk

theorem eq_ok_of_isOk
    {outcome : Except ApiError Unit × PassState}
    (isOk : outcome.1.isOk = true) : outcome = (.ok (), outcome.2) := by
  rcases outcome with ⟨result, s⟩
  cases result with
  | error err => cases isOk
  | ok _ => rfl

theorem nonempty_fullPath_of_reachesEnd
    {r : BootcNodePoolReconciler} {env : Env} {request : String} {w : World}
    (faithful : env.Faithful w) (answered : env.fails .getPool = none)
    (reaches : reachesEnd r env request w = true) :
    Nonempty (FullPath r env request w) := by
  unfold reachesEnd at reaches
  split at reaches
  · cases reaches
  · next pool stored =>
      rw [Bool.and_eq_true] at reaches
      obtain ⟨live, reaches⟩ := reaches
      split at reaches
      · cases reaches
      · next resolution settled =>
          simp only [Bool.and_eq_true, bne_iff_ne] at reaches
          obtain ⟨⟨⟨hasTarget, synced⟩, recorded⟩, driven⟩ := reaches
          exact ⟨⟨pool, ⟨answered, by rw [faithful.fresh, stored], live⟩,
            resolution, settled, hasTarget, _, eq_ok_of_isOk synced, _,
            eq_ok_of_isOk recorded, _, eq_ok_of_isOk driven⟩⟩

/-- A table is canonical if its names have one length and its digests end the
texts. -/
theorem canonicalDigests_ofTable
    {table : List (String × String × Option String)} (length : Nat)
    (names : ∀ entry ∈ table, entry.2.1.toList.length = length)
    (texts : ∀ entry ∈ table, ∀ digest, entry.2.2 = some digest →
      entry.1 = entry.2.1 ++ "@" ++ digest) :
    CanonicalDigests (.ofTable table) := by
  intro ref named digest found parsed isDigest
  unfold ReferenceLibrary.digestOf at isDigest
  split at isDigest
  · next target isTarget =>
      have text := texts _ (mem_of_parseNamed isTarget) found isDigest
      have sameLength := (names _ (mem_of_parseNamed parsed)).trans
        (names _ (mem_of_parseNamed isTarget)).symm
      have lists := congrArg String.toList text
      simp only [String.toList_append, List.append_assoc] at lists
      have tails := (List.append_inj lists sameLength).2
      exact (String.toList_inj.mp (List.append_cancel_left tails)).symm
  · cases isDigest

theorem canonicalDigests_osLibrary : CanonicalDigests osLibrary :=
  canonicalDigests_ofTable 2 (by decide) (by decide)

/-- A node on the target image whose daemon reports a problem. -/
def brokenNode : Tables :=
  { nodes := [("n1", plainNode)]
    bootcNodes :=
      [("n1",
        { stagedNode "os@b" "os@b" with
          status :=
            { (stagedNode "os@b" "os@b").status with
              conditions :=
                [{ type := nodeDegraded
                   status := .conditionTrue
                   reason := "StagingFailed"
                   message := ""
                   observedGeneration := 1
                   lastTransitionTime := 0 }] } })]
    pools := [("workers", osPool "os@b")] }

def TruthRun.start (w : World) : TruthRun :=
  { world := w
    failing := false
    time := 0 }

/-- The run after a `Reconcile` of `workers`. -/
def TruthRun.reconciled (s : TruthRun) (env : Env) : TruthRun :=
  { world := (osReconciler.reconcile env "workers" (.start s.world)).2.world
    failing :=
      match s.world.api.pool "workers" with
      | some pool => failingAfter osReconciler env s.world pool s.failing
      | none => s.failing
    time := env.now }

/-- The user writes another reference into the pool. -/
def TruthRun.edited (s : TruthRun) (ref : String) : TruthRun :=
  { s with world := s.world.setImageRef "workers" ref }

theorem unconditioned_start
    {tables : Tables}
    (unset : (tables.pools.lookup "workers").all
      (fun pool => pool.status.conditions = []) = true) :
    Unconditioned "workers" (.start tables.world) := by
  refine ⟨rfl, fun pool stored => ?_⟩
  have found : tables.pools.lookup "workers" = some pool := stored
  rw [found] at unset
  simpa using unset

/-- The run after the first pass over the broken node. -/
def brokenRun : TruthRun :=
  (TruthRun.start brokenNode.world).reconciled (.calm ["n1"] 0)

/-- The second pass over the broken node tells the truth. -/
theorem degraded_truthful_broken_node :
    ∃ requeued s' pool',
      osReconciler.reconcile (.calm ["n1"] second) "workers"
        (.start brokenRun.world) = (.ok requeued, s') ∧
      s'.world.api.pool "workers" = some pool' ∧
      degradedReason pool' = some poolNodeDegraded ∧
      DegradedTruthful pool'
        (PoolProblem osReconciler second pool' false brokenRun.world
          s'.world) := by
  have within : brokenNode.world.Within ["n1"] := brokenNode.within_names
  have faithful : (Env.calm ["n1"] 0).Faithful brokenNode.world :=
    Env.faithful_calm within (by decide)
  have faithful' : (Env.calm ["n1"] second).Faithful brokenRun.world :=
    Env.faithful_calm (osReconciler.reconcile_within "workers" faithful within)
      (by decide)
  have path : (truthMachine osReconciler "workers").Path
      (fun s action => TruthStep "workers" s action ∧
        KeepsDigestRef osReconciler "workers" s action)
      (.start brokenNode.world) [.reconcile (.calm ["n1"] 0)] brokenRun :=
    .cons ⟨⟨faithful, le_rfl⟩, trivial⟩ rfl (.nil _)
  have reaches : reachesEnd osReconciler (.calm ["n1"] second) "workers"
      brokenRun.world = true := by decide +kernel
  obtain ⟨full⟩ := nonempty_fullPath_of_reachesEnd faithful' rfl reaches
  have failing : failingAfter osReconciler (.calm ["n1"] second)
      brokenRun.world full.pool brokenRun.failing = false := by
    have computed : (brokenRun.world.api.pool "workers").map
        (fun pool => failingAfter osReconciler (.calm ["n1"] second)
          brokenRun.world pool brokenRun.failing) = some false := by
      decide +kernel
    rw [full.stored faithful'] at computed
    exact Option.some.inj computed
  have isOk : (osReconciler.reconcile (.calm ["n1"] second) "workers"
      (.start brokenRun.world)).1.isOk = true := by decide +kernel
  have reason : ((osReconciler.reconcile (.calm ["n1"] second) "workers"
      (.start brokenRun.world)).2.world.api.pool "workers").map
        degradedReason = some (some poolNodeDegraded) := by decide +kernel
  obtain ⟨requeued, s', returned⟩ := exists_of_isOk isOk
  obtain ⟨pool', stored', truthful⟩ := degraded_truthful osReconciler "workers"
    canonicalDigests_osLibrary (unconditioned_start (by decide)) path faithful'
    (by decide) full returned
  rw [failing] at truthful
  rw [returned] at reason
  refine ⟨requeued, s', pool', returned, stored', ?_, truthful⟩
  rw [stored', Option.map_some, Option.some.injEq] at reason
  exact reason

def digestedPool : Tables :=
  { pools := [("workers", osPool "os@b")] }

/-- Surroundings in which the status write fails. -/
def lossyEnv (now : Time) : Env :=
  { Env.calm [] now with
    fails := fun call =>
      if call = .updatePoolStatus then some "conflict" else none }

def rolledOut : TruthRun :=
  (TruthRun.start digestedPool.world).reconciled (.calm [] 0)

/-- The user tries a tag that cannot be resolved. -/
def unresolvable : TruthRun :=
  (rolledOut.edited "os:1").reconciled (.calm [] second)

/-- The user goes back to the digest, but the status of this pass is lost. -/
def lostStatus : TruthRun :=
  (unresolvable.edited "os@b").reconciled (lossyEnv (2 * second))

/-- The user tries the tag again. -/
def leftoverRun : TruthRun :=
  lostStatus.edited "os:1"

/-- A failed resolution, then a status write that is lost. -/
def leftoverActions : List TruthAction :=
  [.reconcile (.calm [] 0), .others (rolledOut.edited "os:1").world,
    .reconcile (.calm [] second), .others (unresolvable.edited "os@b").world,
    .reconcile (lossyEnv (2 * second)),
    .others (lostStatus.edited "os:1").world]

theorem step_reconciled (s : TruthRun) (env : Env) :
    (truthMachine osReconciler "workers").step s (.reconcile env) =
      some (s.reconciled env) :=
  rfl

theorem step_edited (s : TruthRun) (ref : String) :
    (truthMachine osReconciler "workers").step s
      (.others (s.edited ref).world) = some (s.edited ref) :=
  rfl

theorem map_status_setImageRef (w : World) (ref : String) :
    ((w.setImageRef "workers" ref).api.pool "workers").map (·.status) =
      (w.api.pool "workers").map (·.status) := by
  unfold World.setImageRef
  cases stored : w.api.pool "workers" with
  | none => rw [stored]
  | some pool => simp [World.putPool_pool]

theorem truthStep_edited (s : TruthRun) (ref : String) :
    TruthStep "workers" s (.others (s.edited ref).world) :=
  map_status_setImageRef s.world ref

theorem TruthRun.within_reconciled
    {env : Env} (faithful : env.Faithful s.world) (within : s.world.Within []) :
    (s.reconciled env).world.Within [] :=
  osReconciler.reconcile_within "workers" faithful within

theorem TruthRun.within_edited (within : s.world.Within []) (ref : String) :
    (s.edited ref).world.Within [] :=
  within.setImageRef "workers" ref

theorem faithful_lossyEnv
    {w : World} (within : w.Within []) (now : Time) :
    (lossyEnv now).Faithful w :=
  ⟨fun _ _ => rfl, fun _ => List.nodup_nil, fun _ => within⟩

theorem path_leftover :
    (truthMachine osReconciler "workers").Path (TruthStep "workers")
      (.start digestedPool.world) leftoverActions leftoverRun ∧
    leftoverRun.world.Within [] := by
  have calm {w : World} (within : w.Within []) (now : Time) :
      (Env.calm [] now).Faithful w := Env.faithful_calm within List.nodup_nil
  have within₀ : (TruthRun.start digestedPool.world).world.Within [] :=
    digestedPool.within_names
  have within₁ : rolledOut.world.Within [] :=
    TruthRun.within_reconciled (calm within₀ 0) within₀
  have edited₁ := TruthRun.within_edited within₁ "os:1"
  have within₂ : unresolvable.world.Within [] :=
    TruthRun.within_reconciled (calm edited₁ second) edited₁
  have edited₂ := TruthRun.within_edited within₂ "os@b"
  have within₃ : lostStatus.world.Within [] :=
    TruthRun.within_reconciled (faithful_lossyEnv edited₂ (2 * second)) edited₂
  refine ⟨?_, TruthRun.within_edited within₃ "os:1"⟩
  have path₃ : (truthMachine osReconciler "workers").Path
      (TruthStep "workers") lostStatus [.others (lostStatus.edited "os:1").world]
      leftoverRun :=
    .cons (truthStep_edited lostStatus "os:1")
      (step_edited lostStatus "os:1") (.nil _)
  have path₂ : (truthMachine osReconciler "workers").Path
      (TruthStep "workers") unresolvable
      [.others (unresolvable.edited "os@b").world,
        .reconcile (lossyEnv (2 * second)),
        .others (lostStatus.edited "os:1").world]
      leftoverRun :=
    .cons (truthStep_edited unresolvable "os@b")
      (step_edited unresolvable "os@b")
      (.cons ⟨faithful_lossyEnv edited₂ (2 * second), by decide⟩
        (step_reconciled _ _) path₃)
  have path₁ : (truthMachine osReconciler "workers").Path
      (TruthStep "workers") rolledOut
      [.others (rolledOut.edited "os:1").world, .reconcile (.calm [] second),
        .others (unresolvable.edited "os@b").world,
        .reconcile (lossyEnv (2 * second)),
        .others (lostStatus.edited "os:1").world]
      leftoverRun :=
    .cons (truthStep_edited rolledOut "os:1")
      (step_edited rolledOut "os:1")
      (.cons ⟨calm edited₁ second, by decide⟩ (step_reconciled _ _) path₂)
  exact .cons ⟨calm within₀ 0, le_rfl⟩ (step_reconciled _ _) path₁

/-- The last `Reconcile` returns, and the condition that it leaves behind is
the one of a resolution that the digest has made obsolete. -/
theorem resolution_error_left_over :
    Unconditioned "workers" (.start digestedPool.world) ∧
    (truthMachine osReconciler "workers").Path (TruthStep "workers")
      (.start digestedPool.world) leftoverActions leftoverRun ∧
    (Env.calm [] (3 * second)).Faithful leftoverRun.world ∧
    leftoverRun.time ≤ 3 * second ∧
    ∃ (full : FullPath osReconciler (.calm [] (3 * second)) "workers"
        leftoverRun.world) (requeued : Duration) (s' : PassState)
        (pool' : BootcNodePool),
      osReconciler.reconcile (.calm [] (3 * second)) "workers"
        (.start leftoverRun.world) = (.ok requeued, s') ∧
      s'.world.api.pool "workers" = some pool' ∧
      degradedReason pool' = some poolTagResolutionError ∧
      ¬ DegradedTruthful pool'
        (PoolProblem osReconciler (3 * second) pool'
          (failingAfter osReconciler (.calm [] (3 * second))
            leftoverRun.world full.pool leftoverRun.failing)
          leftoverRun.world s'.world) := by
  obtain ⟨path, within⟩ := path_leftover
  have faithful : (Env.calm [] (3 * second)).Faithful leftoverRun.world :=
    Env.faithful_calm within List.nodup_nil
  have reaches : reachesEnd osReconciler (.calm [] (3 * second)) "workers"
      leftoverRun.world = true := by decide +kernel
  obtain ⟨full⟩ := nonempty_fullPath_of_reachesEnd faithful rfl reaches
  have isOk : (osReconciler.reconcile (.calm [] (3 * second)) "workers"
      (.start leftoverRun.world)).1.isOk = true := by decide +kernel
  have reason : ((osReconciler.reconcile (.calm [] (3 * second)) "workers"
      (.start leftoverRun.world)).2.world.api.pool "workers").map
        (fun pool => (degradedReason pool, isStatusConditionTrue
          pool.status.conditions poolDegraded)) =
        some (some poolTagResolutionError, true) := by decide +kernel
  have failing : (leftoverRun.world.api.pool "workers").map
      (fun pool => failingAfter osReconciler (.calm [] (3 * second))
        leftoverRun.world pool leftoverRun.failing) = some false := by
    decide +kernel
  have within' := osReconciler.reconcile_within "workers" faithful within
  have time : leftoverRun.time ≤ 3 * second := by decide
  obtain ⟨requeued, s', returned⟩ := exists_of_isOk isOk
  rw [returned] at reason within'
  obtain ⟨pool', stored', isReason⟩ := Option.map_eq_some_iff.mp reason
  obtain ⟨isTag, isTrue⟩ := Prod.mk.inj isReason
  rw [full.stored faithful, Option.map_some, Option.some.injEq] at failing
  refine ⟨unconditioned_start (by decide), path, faithful, time, full,
    requeued, s', pool', returned, stored', isTag, fun truthful => ?_⟩
  rw [failing] at truthful
  have noBootcNode {w : World} (within : w.Within []) {name : String}
      {bn : BootcNode} (stored : w.api.bootcNode name = some bn) : False := by
    have listed := within.bootcNode name (by simp [stored])
    cases listed
  obtain ⟨problem, isProblem⟩ := truthful.isTrue_iff.mp isTrue
  cases isProblem with
  | resolution isFailing => cases isFailing
  | conflict isConflict =>
      obtain ⟨_, _, _, _, _, _, stored, _⟩ := isConflict
      exact noBootcNode within stored
  | degraded isDegraded =>
      obtain ⟨_, _, stored, _⟩ := isDegraded
      exact noBootcNode within' stored
  | unhealthy two =>
      have empty : unhealthySlots osReconciler.references pool' (3 * second)
          s'.world = ∅ := by
        ext name
        simp only [Set.mem_empty_iff_false, iff_false]
        rintro ⟨_, stored, _⟩
        exact noBootcNode within' stored
      rw [empty, Set.encard_empty] at two
      exact absurd two (by decide)

end BootcOperator
