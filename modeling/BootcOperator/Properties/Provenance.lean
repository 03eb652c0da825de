import BootcOperator.Effects.Reconcile
import BootcOperator.Effects.Tables
import BootcOperator.Lib.Machine

/-!
# Where the rolled-out digest comes from

A `Reconcile` writes the trimmed name of the pool's reference together with
`status.targetDigest`.  The status does not say which reference the digest
belongs to, so the two agree only as long as the reference is not edited
between the `Reconcile` that obtained the digest and a later one that does not
obtain one itself.

The run keeps two histories: the answers of the resolver, and for each pool
the reference it had when its persisted digest was obtained.
-/

namespace BootcOperator

open BootcNodePoolReconciler

variable {w : World} {env : Env} {r : BootcNodePoolReconciler}
  {c : PassContext} {action : Action} {request : String}

/-- The references resolved in a pass, with their digests. -/
def resolverAnswers (log : List Entry) : List (String × String) :=
  log.filterMap fun entry =>
    match entry.action with
    | .resolve ref (.ok digest) => some (ref, digest)
    | _ => none

/-- The reference contains a digest, or its tag is due and the resolver
answers. -/
def yieldsDigest (r : BootcNodePoolReconciler) (env : Env)
    (pool : BootcNodePool) (secretData : Option String) : Bool :=
  match r.references.parseNamed pool.spec.imageRef with
  | .error _ => false
  | .ok named =>
      named.digest.isSome ||
        (isResolutionDue pool env.now &&
          (env.resolve pool.spec.imageRef secretData).toOption.isSome)

/-- A `Reconcile` obtains the digest itself: it gets past the reads of the
pool and of the pull secret, and the reference then yields a digest. -/
def obtainsDigest (r : BootcNodePoolReconciler) (env : Env) (w : World)
    (pool : BootcNodePool) : Bool :=
  (env.fails .getPool).isNone && isLive pool &&
    match (r.fetchPullSecretData env pool (.start w)).1 with
    | .ok secretData => yieldsDigest r env pool secretData
    | .error _ => false

/-- A digest belongs to a reference: the reference contains it, or the
resolver returned it for the reference. -/
def Belongs (r : BootcNodePoolReconciler) (answers : List (String × String))
    (ref digest : String) : Prop :=
  r.references.digestOf ref = some digest ∨ (ref, digest) ∈ answers

theorem Belongs.append
    {answers : List (String × String)} {ref digest : String}
    (belongs : Belongs r answers ref digest) (later : List (String × String)) :
    Belongs r (answers ++ later) ref digest :=
  belongs.imp_right fun member => List.mem_append_left later member

/-! ## One resolution -/

section Resolution

variable {pool : BootcNodePool} {secretData : Option String}
  {resolution : Resolution}

/-- Forgetting a degraded reason does not matter to the digest. -/
theorem yieldsDigest_clearPoolDegradedReason
    (now : Time) (reason : String) :
    yieldsDigest r env (clearPoolDegradedReason now reason pool) secretData =
      yieldsDigest r env pool secretData := by
  have spec := ((BootcNodePool.SameTarget.refl pool).clearPoolDegradedReason
    now reason).spec
  simp only [yieldsDigest, isResolutionDue, spec,
    nextTagResolutionTime_clearPoolDegradedReason]

theorem targetDigest_clearPoolDegradedReason
    (now : Time) (reason : String) (pool : BootcNodePool) :
    (clearPoolDegradedReason now reason pool).status.targetDigest =
      pool.status.targetDigest :=
  ((BootcNodePool.SameTarget.refl pool).clearPoolDegradedReason
    now reason).targetDigest

/-- A tag that is resolved takes the digest of the answer, or keeps the old
one when there is none. -/
theorem targetDigest_resolveTag
    (r : BootcNodePoolReconciler) (env : Env) (pool : BootcNodePool)
    (secretData : Option String) :
    ((r.resolveTag env pool secretData).pool.status.targetDigest =
        pool.status.targetDigest ∧
      (env.resolve pool.spec.imageRef secretData).toOption = none) ∨
    ((r.resolveTag env pool secretData).answer =
        some (.ok (r.resolveTag env pool secretData).pool.status.targetDigest) ∧
      (env.resolve pool.spec.imageRef secretData).toOption.isSome = true) := by
  unfold resolveTag applyAnswer
  cases env.resolve pool.spec.imageRef secretData with
  | error err =>
      refine .inl ⟨?_, rfl⟩
      exact ((BootcNodePool.SameTarget.refl pool).setPoolDegraded env.now
        poolTagResolutionError err).targetDigest
  | ok digest =>
      refine .inr ⟨?_, rfl⟩
      simp only [targetDigest_clearPoolDegradedReason]

/-- The three outcomes of `resolveTargetDigest`. -/
theorem resolveTargetDigest_cases
    (resolved : r.resolveTargetDigest env pool secretData = .ok resolution) :
    ∃ named, r.references.parseNamed pool.spec.imageRef = .ok named ∧
      if yieldsDigest r env pool secretData then
        named.digest = some resolution.pool.status.targetDigest ∨
          resolution.answer = some (.ok resolution.pool.status.targetDigest)
      else
        resolution.pool.status.targetDigest = pool.status.targetDigest := by
  unfold resolveTargetDigest at resolved
  unfold yieldsDigest isResolutionDue
  cases parsed : r.references.parseNamed pool.spec.imageRef with
  | error e =>
      rw [parsed] at resolved
      cases resolved
  | ok named =>
      rw [parsed] at resolved
      refine ⟨named, rfl, ?_⟩
      cases digested : named.digest with
      | some digest =>
          simp only [digested, Except.ok.injEq] at resolved
          subst resolved
          simp [digested, targetDigest_clearPoolDegradedReason]
      | none =>
          have tag := targetDigest_resolveTag r env pool secretData
          cases due : pool.status.nextTagResolutionTime with
          | none =>
              simp only [digested, due, Except.ok.injEq] at resolved
              subst resolved
              rcases tag with ⟨kept, unanswered⟩ | ⟨answered, isSome⟩
              · simp [digested, unanswered, kept]
              · simp [isSome, answered]
          | some next =>
              simp only [digested, due] at resolved
              split_ifs at resolved with early
              · cases resolved
                simp [digested, early]
              · cases resolved
                rcases tag with ⟨kept, unanswered⟩ | ⟨answered, isSome⟩
                · simp [digested, unanswered, kept]
                · simp [early, isSome, answered]

theorem answer_of_resolveTargetDigest
    {answer : Except String String}
    (resolved : r.resolveTargetDigest env pool secretData = .ok resolution)
    (answered : resolution.answer = some answer) :
    env.resolve pool.spec.imageRef secretData = answer := by
  unfold resolveTargetDigest at resolved
  split at resolved
  · cases resolved
  · split at resolved
    · cases resolved
      cases answered
    · split at resolved
      · split_ifs at resolved
        · cases resolved
          cases answered
        · cases resolved
          exact Option.some.inj answered
      · cases resolved
        exact Option.some.inj answered

theorem resolveTargetDigest_eq_ok
    (yields : yieldsDigest r env pool secretData = true) :
    ∃ resolution,
      r.resolveTargetDigest env pool secretData = .ok resolution := by
  unfold yieldsDigest at yields
  unfold resolveTargetDigest
  cases parsed : r.references.parseNamed pool.spec.imageRef with
  | error e => simp [parsed] at yields
  | ok named =>
      dsimp only
      split
      · exact ⟨_, rfl⟩
      · split
        · split <;> exact ⟨_, rfl⟩
        · exact ⟨_, rfl⟩

theorem settle_of_obtainsDigest (obtains : obtainsDigest r env w pool = true) :
    ∃ resolution, r.settle env w pool = some resolution ∧
      (r.references.digestOf pool.spec.imageRef =
          some resolution.pool.status.targetDigest ∨
        resolution.answer =
          some (.ok resolution.pool.status.targetDigest)) := by
  unfold obtainsDigest at obtains
  simp only [Bool.and_eq_true, Option.isNone_iff_eq_none] at obtains
  obtain ⟨⟨reads, live⟩, yields⟩ := obtains
  cases fetched : (r.fetchPullSecretData env pool (.start w)).1 with
  | error e =>
      rw [fetched] at yields
      cases yields
  | ok secretData =>
      simp only [fetched] at yields
      have spec := ((BootcNodePool.SameTarget.refl pool).clearPoolDegradedReason
        env.now poolSecretError).spec
      have settles : r.settle env w pool =
          (r.resolveTargetDigest env
            (clearPoolDegradedReason env.now poolSecretError pool)
            secretData).toOption := by
        simp [settle, reads, live, fetched]
      rw [← yieldsDigest_clearPoolDegradedReason env.now poolSecretError]
        at yields
      obtain ⟨resolution, resolved⟩ := resolveTargetDigest_eq_ok yields
      rw [resolved] at settles
      refine ⟨resolution, settles, ?_⟩
      obtain ⟨named, parsed, outcome⟩ := resolveTargetDigest_cases resolved
      rw [yields, if_pos rfl] at outcome
      rw [spec] at parsed
      simpa only [ReferenceLibrary.digestOf, parsed] using outcome

theorem targetDigest_settledPool_of_not_obtainsDigest
    (obtains : obtainsDigest r env w pool = false) :
    (r.settledPool env w pool).status.targetDigest =
      pool.status.targetDigest := by
  unfold settledPool
  cases settled : r.settle env w pool with
  | none => rfl
  | some resolution =>
      obtain ⟨secretData, fetched, resolved⟩ := settle_eq_some settled
      obtain ⟨named, parsed, outcome⟩ := resolveTargetDigest_cases resolved
      have reaches : ¬ ((env.fails .getPool).isSome ∨ isLive pool = false) := by
        intro stops
        rw [settle, if_pos stops] at settled
        cases settled
      have yields : yieldsDigest r env pool secretData = false := by
        push Not at reaches
        simpa [obtainsDigest, fetched, reaches.1, reaches.2,
          Option.not_isSome_iff_eq_none.mp reaches.1] using obtains
      rw [yieldsDigest_clearPoolDegradedReason, yields,
        if_neg Bool.false_ne_true] at outcome
      exact outcome.trans (targetDigest_clearPoolDegradedReason _ _ pool)

end Resolution

/-- Where the digests of the pools come from. -/
structure ImageRun where
  world : World
  /-- what `TagResolver.Resolve` has returned so far -/
  answers : List (String × String)
  /-- by pool, the reference for which its persisted digest was obtained -/
  obtainedFor : String → Option String

inductive ImageAction where
  | reconcile (env : Env) (request : String)
  /-- users and other actors leave this world behind -/
  | edit (world : World)

def Action.writesStatus : Action → Bool
  | .wrote .updatePoolStatus => true
  | _ => false

/-- The pass has written the status of its pool. -/
def persistsStatus (log : List Entry) : Bool :=
  log.any fun entry => entry.action.writesStatus

/-- A digest counts as obtained once its status is stored. -/
def obtainedAfter (r : BootcNodePoolReconciler) (env : Env)
    (request : String) (s : ImageRun) (log : List Entry) :
    String → Option String :=
  match s.world.api.pool request with
  | none => s.obtainedFor
  | some pool =>
      if obtainsDigest r env s.world pool && persistsStatus log then
        Function.update s.obtainedFor request (some pool.spec.imageRef)
      else s.obtainedFor

def imageMachine (r : BootcNodePoolReconciler) :
    Machine ImageRun ImageAction where
  step s
    | .reconcile env request =>
        let after := (r.reconcile env request (.start s.world)).2
        some
          { world := after.world
            answers := s.answers ++ resolverAnswers after.log
            obtainedFor := obtainedAfter r env request s after.log }
    | .edit world => some { s with world := world }

/-- Users edit specs and anything else but the status of a pool; a new pool
has no digest. -/
def EditsSpecs (w w' : World) : Prop :=
  ∀ request pool', w'.api.pool request = some pool' →
    pool'.status.targetDigest = "" ∨
      ∃ pool, w.api.pool request = some pool ∧ pool'.status = pool.status

/-- Reads are fresh, and others edit no status of a pool. -/
def ImageStep (s : ImageRun) : ImageAction → Prop
  | .reconcile env _ => env.Faithful s.world
  | .edit world => EditsSpecs s.world world

/-- No pool has a digest yet. -/
def NoDigest (s : ImageRun) : Prop :=
  ∀ request pool, s.world.api.pool request = some pool →
    pool.status.targetDigest = ""

/-! ## What a pass does to the status -/

theorem Effect.pool_cases
    {budget : Option Int} {w' : World} (effect : Effect c budget action w w') :
    (w'.api.pool = w.api.pool ∧ action.writesStatus = false) ∨
      ∃ old new, w.api.pool c.request = some old ∧
        w' = w.putPool c.request new ∧
        ((action.writesStatus = false ∧
            ∀ stored, new = some stored → stored.status = old.status) ∨
          (action.writesStatus = true ∧
            ∀ stored, new = some stored →
              stored.status.targetDigest = c.pool.status.targetDigest)) := by
  cases effect with
  | updatePool stored _ _ _ status _ =>
      refine .inr ⟨_, _, stored, rfl, .inl ⟨rfl, ?_⟩⟩
      rintro _ ⟨⟩
      exact status
  | releasePool stored _ =>
      refine .inr ⟨_, _, stored, rfl, .inl ⟨rfl, ?_⟩⟩
      rintro _ ⟨⟩
  | updatePoolStatus stored target =>
      refine .inr ⟨_, _, stored, rfl, .inr ⟨rfl, ?_⟩⟩
      rintro _ ⟨⟩
      exact target
  | patchNodeClaim call _ =>
      refine .inl ⟨rfl, ?_⟩
      rcases call with rfl | rfl <;> rfl
  | _ => exact .inl ⟨rfl, rfl⟩

/-- `P` holds for the persisted digest of every pool. -/
def TargetsSatisfy (P : String → Prop) (w : World) : Prop :=
  ∀ request pool, w.api.pool request = some pool →
    P pool.status.targetDigest

/-- A `Reconcile` keeps a property of the target digests that the digest it
settles on has. -/
theorem TargetsSatisfy.reconcile
    {P : String → Prop} (holds : TargetsSatisfy P w)
    (faithful : env.Faithful w) (request : String)
    (settles : ∀ pool resolution, w.api.pool request = some pool →
      r.settle env w pool = some resolution →
        P resolution.pool.status.targetDigest) :
    TargetsSatisfy P (r.reconcile env request (.start w)).2.world := by
  cases stored : w.api.pool request with
  | none =>
      rw [r.reconcile_of_missing request faithful stored]
      exact holds
  | some pool =>
      have target : P (r.contextOf env request w).pool.status.targetDigest := by
        rw [contextOf_pool r request env stored, settledPool]
        cases settled : r.settle env w pool with
        | none => exact holds request pool stored
        | some resolution => exact settles pool resolution stored settled
      refine (r.reconcile_invariant request (TargetsSatisfy P)
        (fun {_ _ w₁ w₂} effect holds => ?_) faithful holds).1
      rcases effect.pool_cases with ⟨same, _⟩ | ⟨old, new, isOld, rfl, kinds⟩
      · intro other pool' stored'
        rw [same] at stored'
        exact holds other pool' stored'
      · intro other pool' stored'
        rw [World.putPool_pool] at stored'
        split_ifs at stored' with isRequest
        · rcases kinds with ⟨_, status⟩ | ⟨_, digest⟩
          · rw [status pool' stored']
            exact holds _ old isOld
          · rw [digest pool' stored']
            exact target
        · exact holds other pool' stored'

/-- The target digests in the middle of a pass: that of the pass as soon as
the status is written, the old one before. -/
structure TracksDigest (c : PassContext) (w : World) (seen : Seen) :
    Prop where
  others : ∀ other, other ≠ c.request →
    seen.world.api.pool other = w.api.pool other
  digest : ∀ pool', seen.world.api.pool c.request = some pool' →
    ∃ pool, w.api.pool c.request = some pool ∧
      pool'.status.targetDigest =
        if persistsStatus seen.log then c.pool.status.targetDigest
        else pool.status.targetDigest

theorem TracksDigest.act
    {world : World} {seen : Seen} (tracks : TracksDigest c w seen)
    (effect : Effect c seen.maxUnavail action seen.world world) :
    TracksDigest c w
      { seen with world := world, log := seen.log ++ [⟨action, world⟩] } := by
  have persists : persistsStatus (seen.log ++ [⟨action, world⟩]) =
      (persistsStatus seen.log || action.writesStatus) := by
    simp [persistsStatus]
  rcases effect.pool_cases with ⟨same, other⟩ | ⟨old, new, stored, rfl, kind⟩
  · refine ⟨fun other ne => ?_, fun pool' stored => ?_⟩
    · dsimp only
      rw [same]
      exact tracks.others other ne
    · dsimp only at stored
      rw [same] at stored
      simpa [persists, other] using tracks.digest pool' stored
  · refine ⟨fun other ne => ?_, fun pool' isNew => ?_⟩
    · dsimp only
      rw [World.putPool_pool, if_neg ne]
      exact tracks.others other ne
    · dsimp only at isNew
      rw [World.putPool_pool, if_pos rfl] at isNew
      obtain ⟨pool, isPool, digest⟩ := tracks.digest old stored
      refine ⟨pool, isPool, ?_⟩
      dsimp only
      rw [persists]
      rcases kind with ⟨silent, keeps⟩ | ⟨writes, target⟩
      · simpa [silent, keeps pool' isNew] using digest
      · simpa [writes] using target pool' isNew

section Pass

variable (r : BootcNodePoolReconciler) (request : String)
  {pool : BootcNodePool}

theorem tracksDigest_of_reconcile (faithful : env.Faithful w) :
    TracksDigest (r.contextOf env request w) w
      (r.reconcile env request (.start w)).2.seen := by
  have steps := r.steps_of_reconcile request faithful
  generalize (r.reconcile env request (.start w)).2.seen = after at steps ⊢
  induction steps with
  | refl =>
      exact ⟨fun _ _ => rfl, fun pool' stored => ⟨pool', stored, rfl⟩⟩
  | tail _ step ih =>
      cases step with
      | act _ effect => exact ih.act effect
      | halt _ _ => exact ⟨ih.others, ih.digest⟩
      | resolveMaxUnavailable _ _ _ _ =>
          exact ⟨ih.others, ih.digest⟩

theorem mem_resolverAnswers
    {log : List Entry} {entry : Entry} {ref digest : String}
    (member : entry ∈ log) (action : entry.action = .resolve ref (.ok digest)) :
    (ref, digest) ∈ resolverAnswers log := by
  unfold resolverAnswers
  rw [List.mem_filterMap]
  exact ⟨entry, member, by rw [action]⟩

/-- A digest that a `Reconcile` obtains belongs to the reference it read. -/
theorem belongs_of_obtainsDigest
    (faithful : env.Faithful w) (stored : w.api.pool request = some pool)
    (obtains : obtainsDigest r env w pool = true) :
    Belongs r (resolverAnswers (r.reconcile env request (.start w)).2.log)
      pool.spec.imageRef
      (r.contextOf env request w).pool.status.targetDigest := by
  obtain ⟨resolution, settled, source⟩ := settle_of_obtainsDigest obtains
  have isPool : (r.contextOf env request w).pool = resolution.pool := by
    rw [contextOf_pool r request env stored, settledPool, settled]
  have spec := (contextOf_keeps r request env stored).2
  rw [isPool]
  refine source.imp_right fun answered => ?_
  have isResolution := contextOf_resolution r request env stored
  obtain ⟨entry, member, action⟩ := r.noted_of_reconcile request faithful
    resolution _ (isResolution.trans settled) answered
  rw [spec] at action
  exact mem_resolverAnswers member action

theorem targetDigest_of_not_obtainsDigest
    (stored : w.api.pool request = some pool)
    (obtains : obtainsDigest r env w pool = false) :
    (r.contextOf env request w).pool.status.targetDigest =
      pool.status.targetDigest := by
  rw [contextOf_pool r request env stored]
  exact targetDigest_settledPool_of_not_obtainsDigest obtains

end Pass

/-! ## The history of the persisted digests -/

/-- Every persisted digest belongs to the reference it was obtained for. -/
def DigestsBelong (r : BootcNodePoolReconciler) (s : ImageRun) : Prop :=
  ∀ request pool, s.world.api.pool request = some pool →
    pool.status.targetDigest ≠ "" →
      ∃ ref, s.obtainedFor request = some ref ∧
        Belongs r s.answers ref pool.status.targetDigest

section Run

variable {s : ImageRun}

theorem NoDigest.digestsBelong (none : NoDigest s) : DigestsBelong r s :=
  fun request pool stored nonempty => (nonempty (none request pool stored)).elim

theorem DigestsBelong.edit
    (belong : DigestsBelong r s) {world : World}
    (edits : EditsSpecs s.world world) :
    DigestsBelong r { s with world := world } := by
  intro request pool' stored nonempty
  rcases edits request pool' stored with empty | ⟨pool, isPool, status⟩
  · exact (nonempty empty).elim
  · rw [status] at nonempty ⊢
    exact belong request pool isPool nonempty

/-- Other pools keep the reference of their digest. -/
theorem obtainedAfter_of_ne
    {other : String} (ne : other ≠ request) (log : List Entry) :
    obtainedAfter r env request s log other = s.obtainedFor other := by
  unfold obtainedAfter
  cases s.world.api.pool request with
  | none => rfl
  | some pool =>
      dsimp only
      split_ifs
      · exact Function.update_of_ne ne _ _
      · rfl

theorem DigestsBelong.reconcile
    (belong : DigestsBelong r s) {s' : ImageRun}
    (faithful : env.Faithful s.world)
    (stepped : (imageMachine r).step s (.reconcile env request) = some s') :
    DigestsBelong r s' := by
  cases stepped
  have tracks := tracksDigest_of_reconcile r request faithful
  intro other pool' stored' nonempty
  dsimp only at stored' ⊢
  by_cases isRequest : other = request
  · subst isRequest
    obtain ⟨pool, isPool, digest⟩ := tracks.digest pool' stored'
    have stored : s.world.api.pool other = some pool := isPool
    by_cases takes : obtainsDigest r env s.world pool = true ∧
        persistsStatus (r.reconcile env other (.start s.world)).2.log = true
    · obtain ⟨obtains, persists⟩ := takes
      refine ⟨pool.spec.imageRef, ?_, ?_⟩
      · simp [obtainedAfter, stored, persists, obtains]
      · rw [digest, PassState.seen, if_pos persists]
        exact (belongs_of_obtainsDigest r other faithful stored
          obtains).imp_right fun member =>
            List.mem_append_right s.answers member
    · have unchanged : obtainedAfter r env other s
          (r.reconcile env other (.start s.world)).2.log =
            s.obtainedFor := by
        simp only [obtainedAfter, stored, Bool.and_eq_true, if_neg takes]
      have kept : pool'.status.targetDigest = pool.status.targetDigest := by
        rw [digest]
        split_ifs with persists
        · refine targetDigest_of_not_obtainsDigest r other stored ?_
          exact Bool.eq_false_iff.mpr fun obtains => takes ⟨obtains, persists⟩
        · rfl
      rw [kept] at nonempty ⊢
      rw [unchanged]
      obtain ⟨ref, isRef, belongs⟩ := belong other pool stored nonempty
      exact ⟨ref, isRef, belongs.append _⟩
  · have stored : s.world.api.pool other = some pool' := by
      rw [← tracks.others other isRequest]
      exact stored'
    rw [obtainedAfter_of_ne isRequest]
    obtain ⟨ref, isRef, belongs⟩ := belong other pool' stored nonempty
    exact ⟨ref, isRef, belongs.append _⟩

theorem digestsBelong_of_path
    {start : ImageRun} {actions : List ImageAction}
    (path : (imageMachine r).Path ImageStep start actions s)
    (none : NoDigest start) :
    DigestsBelong r s := by
  refine path.invariant (DigestsBelong r)
    (fun {s a s'} belong admissible stepped => ?_) none.digestsBelong
  cases a with
  | reconcile env request => exact belong.reconcile admissible stepped
  | edit world =>
      cases stepped
      exact belong.edit admissible

end Run

/-! ## The written image -/

/-- The writes of `spec.desiredImage` write the image of the pass. -/
theorem Effect.writes_desiredImage
    {budget : Option Int} {w' : World} {name : String}
    (effect : Effect c budget action w w')
    (writes : action = .wrote (.createBootcNode name) ∨
      action = .wrote (.syncSpec name)) :
    c.HasTarget ∧ ∃ bn, w'.api.bootcNode name = some bn ∧
      bn.spec.desiredImage = c.desiredImage := by
  cases effect with
  | createBootcNode hasTarget _ _ =>
      obtain rfl : _ = name := by simpa using writes
      have written := World.putBootcNode_bootcNode
      exact ⟨hasTarget, _, (written ..).trans (if_pos rfl), rfl⟩
  | syncSpec hasTarget _ =>
      obtain rfl : _ = name := by simpa using writes
      have written := World.putBootcNode_bootcNode
      exact ⟨hasTarget, _, (written ..).trans (if_pos rfl), rfl⟩
  | patchNodeClaim call _ => rcases call with rfl | rfl <;> simp at writes
  | _ => simp at writes

/-- The digest of a pass that has one is for the pool's reference: the pool
has no digest yet, the pass obtains one itself, or the reference is still the
one the persisted digest was obtained for. -/
def DigestIsCurrent (r : BootcNodePoolReconciler) (env : Env) (s : ImageRun)
    (request : String) (pool : BootcNodePool) : Prop :=
  pool.status.targetDigest = "" ∨
    obtainsDigest r env s.world pool = true ∨
      s.obtainedFor request = some pool.spec.imageRef

theorem belongs_of_digestIsCurrent
    {s : ImageRun} {pool : BootcNodePool} (belong : DigestsBelong r s)
    (faithful : env.Faithful s.world)
    (stored : s.world.api.pool request = some pool)
    (current : DigestIsCurrent r env s request pool) (nonempty :
      (r.contextOf env request s.world).pool.status.targetDigest ≠ "") :
    Belongs r
      (s.answers ++
        resolverAnswers (r.reconcile env request (.start s.world)).2.log)
      pool.spec.imageRef
      (r.contextOf env request s.world).pool.status.targetDigest := by
  cases obtains : obtainsDigest r env s.world pool with
  | true =>
      exact (belongs_of_obtainsDigest r request faithful stored
        obtains).imp_right fun member =>
          List.mem_append_right s.answers member
  | false =>
      have kept := targetDigest_of_not_obtainsDigest r request stored obtains
      rw [kept] at nonempty ⊢
      obtain ⟨ref, isRef, belongs⟩ := belong request pool stored nonempty
      rcases current with empty | obtained | same
      · exact (nonempty empty).elim
      · rw [obtains] at obtained
        cases obtained
      · have isCurrent : ref = pool.spec.imageRef :=
          Option.some.inj (isRef.symm.trans same)
        exact isCurrent ▸ belongs.append _

/-- In every run of `Reconcile`s that read what is stored and of user edits, a
`Reconcile` whose digest is current writes as `spec.desiredImage` the trimmed
name of the reference it read with the digest of that reference, or with one
that the resolver returned for exactly that reference. -/
theorem desiredImage_provenance
    {r : BootcNodePoolReconciler} {start s : ImageRun}
    {actions : List ImageAction} (noDigest : NoDigest start)
    (path : (imageMachine r).Path ImageStep start actions s) {env : Env}
    {request : String} {pool : BootcNodePool} (faithful : env.Faithful s.world)
    (stored : s.world.api.pool request = some pool)
    (current : DigestIsCurrent r env s request pool) {entry : Entry}
    {name : String}
    (logged : entry ∈ (r.reconcile env request (.start s.world)).2.log)
    (writes : entry.action = .wrote (.createBootcNode name) ∨
      entry.action = .wrote (.syncSpec name)) :
    ∃ bn named digest,
      entry.after.api.bootcNode name = some bn ∧
      r.references.parseNamed pool.spec.imageRef = .ok named ∧
      bn.spec.desiredImage = named.trimmed ++ "@" ++ digest ∧
      (named.digest = some digest ∨
        (pool.spec.imageRef, digest) ∈
          s.answers ++ resolverAnswers
            (r.reconcile env request (.start s.world)).2.log) := by
  have belong := digestsBelong_of_path path noDigest
  have done := (r.reconcile_invariant request (fun _ => True)
    (fun _ _ => trivial) faithful trivial).2 entry logged
  obtain ⟨budget, before, _, effect⟩ := done.effect
  obtain ⟨⟨resolution, isResolution, nonempty⟩, bn, isBootcNode, image⟩ :=
    effect.writes_desiredImage writes
  rw [contextOf_resolution r request env stored] at isResolution
  have isPool : (r.contextOf env request s.world).pool = resolution.pool := by
    rw [contextOf_pool r request env stored, settledPool, isResolution]
  have spec : (r.contextOf env request s.world).pool.spec = pool.spec := by
    rw [contextOf_pool r request env stored]
    exact (r.settledPool_keeps env s.world pool).2.2
  obtain ⟨secretData, _, resolved⟩ := settle_eq_some isResolution
  obtain ⟨named, parsed, _⟩ := resolveTargetDigest_cases resolved
  rw [((BootcNodePool.SameTarget.refl pool).clearPoolDegradedReason
    env.now poolSecretError).spec] at parsed
  have belongs := belongs_of_digestIsCurrent belong faithful stored current
    (by rwa [isPool])
  rw [Belongs, ReferenceLibrary.digestOf, parsed] at belongs
  refine ⟨bn, named, _, isBootcNode, parsed, ?_, belongs⟩
  rw [image, PassContext.desiredImage, desiredImageFromPool, spec]
  have isReconciler : (r.contextOf env request s.world).reconciler = r := rfl
  simp only [isReconciler, parsed]

/-! ## A tag of another repository -/

theorem editsSpecs_setImageRef (w : World) (request ref : String) :
    EditsSpecs w (w.setImageRef request ref) := by
  intro other pool' stored'
  unfold World.setImageRef at stored'
  split at stored'
  · exact .inr ⟨pool', stored', rfl⟩
  · next pool stored =>
      rw [World.putPool_pool] at stored'
      split_ifs at stored' with same
      · cases stored'
        exact .inr ⟨pool, same ▸ stored, rfl⟩
      · exact .inr ⟨pool', stored', rfl⟩

def taggedPool : Tables :=
  { nodes := [("n1", plainNode)]
    pools := [("workers", osPool "os:1")] }

def taggedEnv (now : Time) : Env :=
  { Env.calm ["n1"] now with
    resolve := fun ref _ =>
      if ref = "os:1" then .ok "a" else .error "no such tag" }

theorem faithful_taggedEnv (within : w.Within ["n1"]) (now : Time) :
    (taggedEnv now).Faithful w :=
  ⟨fun _ _ => rfl, fun _ => List.nodup_singleton "n1", fun _ => within⟩

def taggedStart : ImageRun :=
  { world := taggedPool.world
    answers := []
    obtainedFor := fun _ => none }

/-- The actions of a first `Reconcile` and of the edit behind it. -/
def retagActions (ref : String) : List ImageAction :=
  [.reconcile (taggedEnv 0) "workers",
    .edit
      ((osReconciler.reconcile (taggedEnv 0) "workers"
        (.start taggedPool.world)).2.world.setImageRef "workers" ref)]

/-- The tag is resolved, then the user writes `ref` into the pool. -/
def retagged (ref : String) : ImageRun :=
  { world :=
      (osReconciler.reconcile (taggedEnv 0) "workers"
        (.start taggedPool.world)).2.world.setImageRef "workers" ref
    answers := [("os:1", "a")]
    obtainedFor :=
      Function.update (fun _ => none) "workers" (some "os:1") }

theorem retagged_within (ref : String) :
    (retagged ref).world.Within ["n1"] := by
  have reconciled := osReconciler.reconcile_within "workers"
    (faithful_taggedEnv taggedPool.within_names 0) taggedPool.within_names
  unfold retagged World.setImageRef
  dsimp only
  split
  · exact reconciled
  · exact ⟨reconciled.node, reconciled.bootcNode, reconciled.drain⟩

theorem noDigest_taggedStart : NoDigest taggedStart := by
  intro request pool stored
  have listed : taggedPool.pools.lookup request = some pool := stored
  simp only [taggedPool, List.lookup_cons, List.lookup_nil] at listed
  split at listed
  · cases listed
    rfl
  · cases listed

theorem path_retagged (ref : String) :
    (imageMachine osReconciler).Path ImageStep taggedStart
      (retagActions ref) (retagged ref) :=
  .cons (faithful_taggedEnv taggedPool.within_names 0) rfl
    (.cons (editsSpecs_setImageRef _ _ _) rfl (.nil _))

def afterRetag (ref : String) : PassState :=
  (osReconciler.reconcile (taggedEnv second) "workers"
    (.start (retagged ref).world)).2

/-- The entry writes the image to the BootcNode of a node that has one. -/
def Entry.syncsImage (name image : String) (entry : Entry) : Bool :=
  match entry.action with
  | .wrote (.syncSpec written) =>
      written = name &&
        (entry.after.api.bootcNode name).map (·.spec.desiredImage) =
          some image
  | _ => false

theorem Entry.action_of_syncsImage
    {name image : String} {entry : Entry}
    (syncs : entry.syncsImage name image = true) :
    entry.action = .wrote (.syncSpec name) := by
  unfold Entry.syncsImage at syncs
  split at syncs
  · next written action =>
      have same : written = name := by
        simp only [Bool.and_eq_true, decide_eq_true_eq] at syncs
        exact syncs.1
      rw [action, same]
  · cases syncs

/-- The reference is edited to a digest, which the next `Reconcile` rolls
out. -/
theorem desiredImage_provenance_of_digest :
    ∃ entry ∈ (afterRetag "os@b").log,
      entry.syncsImage "n1" "os@b" = true ∧
      ∃ bn named digest,
        entry.after.api.bootcNode "n1" = some bn ∧
        osLibrary.parseNamed "os@b" = .ok named ∧
        bn.spec.desiredImage = named.trimmed ++ "@" ++ digest ∧
        (named.digest = some digest ∨
          ("os@b", digest) ∈ (retagged "os@b").answers ++
            resolverAnswers (afterRetag "os@b").log) := by
  have syncs : (afterRetag "os@b").log.any
      (Entry.syncsImage "n1" "os@b") = true := by
    decide
  obtain ⟨entry, logged, isSync⟩ := List.any_eq_true.mp syncs
  refine ⟨entry, logged, isSync, ?_⟩
  have faithful := faithful_taggedEnv (retagged_within "os@b") second
  obtain ⟨pool, stored, imageRef, obtains⟩ :
      ∃ pool, (retagged "os@b").world.api.pool "workers" = some pool ∧
        pool.spec.imageRef = "os@b" ∧
        obtainsDigest osReconciler (taggedEnv second) (retagged "os@b").world
          pool = true :=
    ⟨_, rfl, rfl, rfl⟩
  have provenance := desiredImage_provenance noDigest_taggedStart
    (path_retagged "os@b") faithful stored (.inr (.inl obtains)) logged
    (.inr (Entry.action_of_syncsImage isSync))
  rw [imageRef] at provenance
  exact provenance

/-- The tag is edited to that of another repository before the next resolution
is due: the digest of the old tag is rolled out under the new name. -/
theorem digest_of_old_tag_with_new_name :
    (imageMachine osReconciler).Path ImageStep taggedStart
      (retagActions "vm:1") (retagged "vm:1") ∧
    NoDigest taggedStart ∧
    (taggedEnv second).Faithful (retagged "vm:1").world ∧
    (∃ entry ∈ (afterRetag "vm:1").log,
      entry.syncsImage "n1" "vm@a" = true) ∧
    osLibrary.digestOf "vm:1" = none ∧
    ("vm:1", "a") ∉ (retagged "vm:1").answers ++
      resolverAnswers (afterRetag "vm:1").log := by
  have syncs : (afterRetag "vm:1").log.any
      (Entry.syncsImage "n1" "vm@a") = true := by
    decide +kernel
  exact ⟨path_retagged _, noDigest_taggedStart,
    faithful_taggedEnv (retagged_within _) _, List.any_eq_true.mp syncs, rfl,
    by decide +kernel⟩

end BootcOperator
