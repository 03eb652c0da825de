import BootcOperator.Effects.Stalls

/-!
# A reconcile as a chain of effects

`steps_of_reconcile`: when reads see all earlier writes, every `Reconcile`
moves the world along steps of its context, whatever requests fail.
-/

namespace BootcOperator

open Program

variable {env : Env} {pool : BootcNodePool} {name : String} {w : World}
  {tagTargetChanged : Bool} {requeueAfter : Duration} {s : PassState}
  {resolution : Resolution}

section Pool

variable {c : PassContext} {pre : PassState → Prop}
  {exc : ApiError → PassState → Prop}

theorem follows_updatePool
    (old : BootcNodePool) (ignores : IgnoresIssued pre)
    (stopped : Stops pre exc)
    (known : ∀ s, pre s → s.world.api.pool c.request = some old)
    (name : pool.name = old.name) (uid : pool.uid = old.uid)
    (spec : pool.spec = old.spec)
    (freed : ∀ s, pre s → finalizerPoolCleanup ∉ pool.finalizers →
      ∀ name bn, ¬ Owns c s.world name bn) {post : Unit → PassState → Prop}
    (holds : ∀ s stored, pre s → post ()
      (s.perform (.wrote .updatePool)
        (s.world.putPool c.request stored))) :
    (regime c).Follows pre (Pass.updatePool env c.request pool)
      post exc := by
  refine .bind (follows_sendWrite ignores fun _ => stopped) fun _ => ?_
  refine .bindRead fun found => ?_
  cases found with
  | none => exact .fail fun s before => stopped _ s (.inr rfl) before.1
  | some server =>
      refine .step (fun s before => ?_) fun s before => ?_
      rotate_left
      · split <;> exact holds s _ before.1
      have same := Option.some.inj (before.2.symm.trans (known s before.1))
      subst same
      split
      · next released =>
          refine .act rfl (.releasePool before.2 (freed s before.1 ?_))
          simp [released.2]
      · exact .act rfl
          (.updatePool before.2 name uid spec rfl (freed s before.1))

theorem follows_updatePoolStatus
    (ignores : IgnoresIssued pre) (stopped : Tolerant exc)
    (target : ∀ s, pre s →
      pool.status.targetDigest = c.pool.status.targetDigest)
    {post : Unit → PassState → Prop} (holds : ∀ s stored, pre s → post ()
      (s.perform (.wrote .updatePoolStatus)
        (s.world.putPool c.request stored))) :
    (regime c).Follows pre (Pass.updatePoolStatus env c.request pool)
      post exc := by
  refine .bind (follows_sendWrite ignores stopped.stops) fun _ => ?_
  refine .bindRead fun found => ?_
  cases found with
  | none => exact .fail fun s _ => stopped _ s (.inr rfl)
  | some server =>
      exact .step (fun s before => .act rfl
        (.updatePoolStatus before.2 (target s before.1)))
        fun s before => holds s _ before.1

end Pool

namespace BootcNodePoolReconciler

section Events

variable {c : PassContext}

variable {bn : BootcNode} {exc : ApiError → PassState → Prop}

theorem follows_markObserved {observation : String} :
    (regime c).Follows
      (fun s => Targets c none s ∧ s.owned name = some bn)
      (markObserved c.env name bn observation)
      (fun _ s => Targets c none s) exc := by
  have quiet : Insensitive name fun s =>
      Targets c none s ∧ s.owned name = some bn :=
    (Targets.insensitive c none name).and (.owned name name _)
  have patched : (regime c).Follows
      (fun s => Targets c none s ∧ s.owned name = some bn)
      (Pass.patchBootcNode c.env (.markObserved name) name bn
        { bn with
          annotations := bn.annotations.set .lastObservedState observation })
      (fun _ s => Targets c none s) (fun _ s => Targets c none s) :=
    follows_patchBootcNode quiet.ignoresIssued
      (fun _ e s _ before => before.1)
      (fun s before => (before.1.owns before.2).stored)
      (BootcNode.merge_annotations bn rfl)
      (fun s before => .act rfl (.markObserved (before.1.owns before.2)))
      fun s before => before.1.patched before.2 rfl rfl
  refine .bindVia (fun _ => Targets c none)
    (.conseq (.attempt patched) (fun _ before => before) ?_
      fun _ _ after => after) fun _ => .ret fun _ after => after
  intro result s after
  cases result <;> exact after

theorem isStall_of_nodeEvent
    {previous observation reason : String} {eventNote : EventNote}
    (isEvent : nodeEvent bn previous =
      (observation, some (reason, eventNote))) :
    eventNote.isStall = false := by
  unfold nodeEvent at isEvent
  split at isEvent
  · cases isEvent
  · dsimp only at isEvent
    split_ifs at isEvent <;> cases isEvent <;> rfl

theorem follows_recordTransition :
    (regime c).Follows
      (fun s => Targets c none s ∧ s.owned name = some bn)
      (recordTransition c.env name bn) (fun _ s => Targets c none s) exc := by
  unfold recordTransition
  dsimp only
  rcases isEvent : nodeEvent bn (observationOf bn) with ⟨observation, event⟩
  refine .ite (fun _ => .ret fun _ before => before.1) fun _ => ?_
  cases event with
  | none => exact follows_markObserved
  | some event =>
      obtain ⟨reason, eventNote⟩ := event
      exact .bind (follows_recordNodeEvent
        ((Targets.insensitive c none name).and (.owned name name _))
        (by simp [isStall_of_nodeEvent isEvent]))
        fun _ => follows_markObserved

theorem follows_recordNodeEvents :
    (regime c).Follows (Targets c none) (recordNodeEvents c.env)
      (fun _ s => Targets c none s) exc := by
  refine .forEach_keeps fun name _ => .bindRead fun found => ?_
  cases found with
  | none => exact .ret fun _ before => before.1
  | some bn => exact follows_recordTransition

end Events

/-! ## Deletion of the pool -/

/-- The state at the start, with the pool just read. -/
structure Begun (w : World) (pool : BootcNodePool) (s : PassState) : Prop where
  world : s.world = w
  pool : s.pool = pool
  undecided : Undecided s

section Deletion

variable {c : PassContext} {exc : ApiError → PassState → Prop}
  (stopped : Tolerant exc)

/-- What holds in the loop over the BootcNodes of a deleted pool. -/
structure Deleting (c : PassContext) (pool : BootcNodePool)
    (all : String → Option BootcNode) (done : List String) (s : PassState) :
    Prop where
  stored : s.world.api.pool c.request = some pool
  listed : ∀ name, name ∉ done → s.world.api.bootcNode name = all name
  freed : ∀ name, name ∈ done → ∀ bn, ¬ Owns c s.world name bn
  undecided : Undecided s

theorem Deleting.removed
    {all : String → Option BootcNode} {done : List String} {action : Action}
    (deleting : Deleting c pool all done s) :
    Deleting c pool all (done ++ [name])
      (s.perform action (s.world.putBootcNode name none)) := by
  have elsewhere : ∀ other, other ≠ name →
      (s.world.putBootcNode name none).api.bootcNode other =
        s.world.api.bootcNode other := by
    intro other different
    rw [s.world.putBootcNode_bootcNode, if_neg different]
  refine ⟨deleting.stored, fun other notLater => ?_,
    fun other member bn owns => ?_, deleting.undecided.unhalted,
    deleting.undecided.unresolved⟩
  · have different : other ≠ name := fun same => notLater (by simp [same])
    exact (elsewhere other different).trans
      (deleting.listed other fun member => notLater (by simp [member]))
  · have stored : (s.world.putBootcNode name none).api.bootcNode other =
        some bn := owns.stored
    by_cases same : other = name
    · rw [s.world.putBootcNode_bootcNode, if_pos same] at stored
      cases stored
    · rw [elsewhere other same] at stored
      refine deleting.freed other ?_ bn ⟨stored, owns.controlled⟩
      rcases List.mem_append.mp member with earlier | last
      · exact earlier
      · exact absurd (List.mem_singleton.mp last) same

include stopped

theorem follows_removeForDeletion
    {all : String → Option BootcNode} {done : List String}
    (fresh : c.env.Fresh) (uid : pool.uid = c.pool.uid)
    (leaves : c.isMember name = false) (notDone : name ∉ done) :
    (regime c).Follows (Deleting c pool all done)
      (removeForDeletion c.env pool all name)
      (fun _ s => Deleting c pool all (done ++ [name]) s) exc := by
  have later : ∀ s, Deleting c pool all done s →
      (∀ bn, ¬ Owns c s.world name bn) →
      Deleting c pool all (done ++ [name]) s := by
    intro s deleting unowned
    refine ⟨deleting.stored, fun other notLater => deleting.listed other
      fun member => notLater (by simp [member]), fun other member => ?_,
      deleting.undecided⟩
    rcases List.mem_append.mp member with earlier | last
    · exact deleting.freed other earlier
    · exact List.mem_singleton.mp last ▸ unowned
  unfold removeForDeletion
  cases listed : all name with
  | none =>
      refine .ret fun s deleting => later s deleting fun bn owns => ?_
      have absent := (deleting.listed name notDone).trans listed
      rw [owns.stored] at absent
      cases absent
  | some bn =>
      refine .ite (fun controlled => .mapError ?_) fun foreign =>
        .ret fun s deleting => later s deleting fun bn' owns => ?_
      · refine follows_removeBootcNode ?_ ?_ (stopped.wrap _) fresh ?_ leaves
          ?_
        · intro s s' alike deleting
          refine ⟨alike.storedPool ▸ deleting.stored,
            alike.bootcNode ▸ deleting.listed, fun other member bn' owns =>
              deleting.freed other member bn' ⟨?_, owns.controlled⟩,
            alike.rolloutHalted.trans deleting.undecided.unhalted,
            alike.maxUnavail.trans deleting.undecided.unresolved⟩
          exact (congrFun alike.bootcNode other).symm.trans owns.stored
        · exact fun s action drain deleting =>
            ⟨deleting.stored, deleting.listed, fun other member bn' owns =>
              deleting.freed other member bn' ⟨owns.stored, owns.controlled⟩,
              deleting.undecided.unhalted, deleting.undecided.unresolved⟩
        · intro s deleting
          refine ⟨(deleting.listed name notDone).trans listed, ?_⟩
          rwa [BootcNode.isControlledBy, ← uid]
        · exact fun s deleting => deleting.removed
      · have same := (deleting.listed name notDone).trans listed
        rw [owns.stored, Option.some.injEq] at same
        subst same
        refine foreign ?_
        rw [BootcNode.isControlledBy, uid]
        exact owns.controlled

theorem follows_handlePoolDeletion
    (faithful : c.env.Faithful w) (stored : w.api.pool c.request = some pool)
    (uid : pool.uid = c.pool.uid) (leaves : ∀ name, c.isMember name = false) :
    (regime c).Follows (Begun w pool)
      (handlePoolDeletion c.env c.request) (fun _ s => Undecided s) exc := by
  refine .bindReadOf (· = pool) (fun s begun => begun.pool)
    fun read isPool => ?_
  subst isPool
  refine .ite (fun _ => .ret fun _ before => before.1.undecided) fun _ => ?_
  refine .bind (.mapError (.mapError
    (follows_query faithful.fresh ((stopped.wrap _).wrap _).stops)))
    fun all => .know (all = w.api.bootcNode)
      (fun s before => before.1.1.world ▸ before.2) fun isAll => ?_
  refine .bind (.conseq (.forEach (Deleting c read all)
      fun done name rest split => follows_removeForDeletion stopped
        faithful.fresh uid (leaves name) ?_)
    (fun s before => ⟨before.1.1.world ▸ stored, fun name _ => ?_, by simp,
      before.1.1.undecided⟩)
    (fun _ _ after => after) fun _ _ after => after) fun _ => ?_
  · have distinct := faithful.nodup .deletedPool
    rw [split] at distinct
    exact fun member =>
      (List.nodup_append.mp distinct).2.2 name member name (by simp) rfl
  · rw [before.2]
  refine .bindVia
    (fun _ s => s.world.api.pool c.request = some read ∧ Undecided s ∧
      ∀ name bn, ¬ Owns c s.world name bn)
    (.update (fun _ _ => rfl) fun s after => ⟨after.stored,
      ⟨after.undecided.unhalted, after.undecided.unresolved⟩,
      fun name bn owns => ?_⟩) fun _ => ?_
  · by_cases visited : name ∈ c.env.order .deletedPool
    · exact after.freed name visited bn ⟨owns.stored, owns.controlled⟩
    · have stored : s.world.api.bootcNode name = some bn := owns.stored
      rw [after.listed name visited, isAll] at stored
      refine visited ((faithful.covers .deletedPool).bootcNode name ?_)
      simp [stored]
  have updated : (regime c).Follows
      (fun s => s.world.api.pool c.request = some read ∧ Undecided s ∧
        ∀ name bn, ¬ Owns c s.world name bn)
      (Pass.updatePool c.env c.request
        { read with
          finalizers := read.finalizers.filter (· ≠ finalizerPoolCleanup) })
      (fun _ s => Undecided s) (fun e s => e.Routine ∧ Undecided s) := by
    refine follows_updatePool read ?_ ?_ ?_ (by rfl) (by rfl) (by rfl) ?_ ?_
    · exact fun s calls before => ⟨before.1,
        ⟨before.2.1.unhalted, before.2.1.unresolved⟩, before.2.2⟩
    · exact fun e s routine before => ⟨routine, before.2.1⟩
    · exact fun s before => before.1
    · exact fun s before _ => before.2.2
    · exact fun s stored before =>
        ⟨before.2.1.unhalted, before.2.1.unresolved⟩
  refine .bind (.attempt updated) fun result => ?_
  cases result with
  | ok _ => exact .ret fun _ after => after
  | error e =>
      exact .ite (fun _ => .ret fun _ after => after.2) fun _ =>
        .fail fun s after => stopped _ s after.1

end Deletion

/-! ## The status of the pool -/

theorem SameTarget.clearRolloutReasons
    {p q : BootcNodePool} (same : p.SameTarget q) (now : Time) :
    (clearRolloutReasons now p).SameTarget q :=
  (((same.clearPoolDegradedReason now _).clearPoolDegradedReason now
    _).clearPoolDegradedReason now _).clearPoolDegradedReason now _

theorem SameTarget.syncPoolStatus
    {p q : BootcNodePool} (same : p.SameTarget q) (now : Time)
    (rs : RolloutState) : (syncPoolStatus now rs p).SameTarget q :=
  ⟨same.name, same.uid, same.spec, same.targetDigest⟩

theorem isStall_of_mem_poolEvents
    {previous : BootcNodePoolStatus} {event : Event}
    (member : event ∈ poolEvents pool previous tagTargetChanged) :
    event.note.isStall = false := by
  unfold poolEvents at member
  simp only [List.mem_append] at member
  rcases member with ((updated | started) | completed) | degraded
  · split at updated <;> simp at updated
    simp [updated, EventNote.isStall]
  · split at started <;> simp at started
    simp [started, EventNote.isStall]
  · split at completed <;> simp at completed
    simp [completed, EventNote.isStall]
  · split at degraded <;> simp at degraded
    simp [degraded, EventNote.isStall]

section Status

variable {c : PassContext} {previous : BootcNodePoolStatus}
  {exc : ApiError → PassState → Prop} (stopped : ∀ e s, exc e s)

/-- A pass that has decided about the rollout leaves no drain behind that is
overdue and not marked. -/
def OnTime (c : PassContext) (s : PassState) : Prop :=
  ¬ Undecided s → ∀ name status, s.world.drains name = some status →
    status.isOverdue c.env.now = false

theorem onTime_of_undecided (undecided : Undecided s) :
    OnTime c s :=
  fun decided => (decided undecided).elim

/-- What holds while the status is written. -/
structure Closing (c : PassContext) (s : PassState) : Prop where
  target : s.pool.status.targetDigest = c.pool.status.targetDigest
  onTime : OnTime c s

theorem OnTime.of_eq
    {s' : PassState} (onTime : OnTime c s)
    (drains : s'.world.drains = s.world.drains)
    (rolloutHalted : s'.rolloutHalted = s.rolloutHalted)
    (maxUnavail : s'.maxUnavail = s.maxUnavail) : OnTime c s' := by
  intro decided
  rw [drains]
  refine onTime fun undecided => decided ⟨?_, ?_⟩
  · exact rolloutHalted.trans undecided.unhalted
  · exact maxUnavail.trans undecided.unresolved

include stopped

theorem follows_complete :
    (regime c).Follows (Closing c)
      (complete c.env c.request previous tagTargetChanged requeueAfter)
      (fun _ s => OnTime c s) exc := by
  refine .bindVia (fun _ s => OnTime c s)
    (.mapError (.bindRead fun pool => ?_)) fun _ => .ret fun _ after => after
  refine .ite (fun _ => .ret fun _ before => before.1.onTime) fun _ => ?_
  refine .bindVia (fun _ s => OnTime c s) (follows_updatePoolStatus ?_
    (fun _ _ _ => stopped _ _) (fun s before => ?_) fun s _ before => ?_)
    fun _ => ?_
  · exact fun s calls before =>
      ⟨⟨before.1.target, before.1.onTime.of_eq rfl rfl rfl⟩, before.2⟩
  · rw [← before.2]
    exact before.1.target
  · exact before.1.onTime.of_eq rfl rfl rfl
  · refine .forEach_keeps fun event member =>
      follows_note (fun _ _ => .act ?_ .event) fun _ before =>
        before.of_eq rfl rfl rfl
    simp [Action.concernsStall, isStall_of_mem_poolEvents member]

theorem follows_reportDegraded {reason message : String} :
    (regime c).Follows (Closing c)
      (reportDegraded c.env c.request previous reason message)
      (fun _ s => OnTime c s) exc := by
  refine .bindVia (fun _ => Closing c) (.update (fun _ _ => rfl) ?_)
    fun _ => follows_complete stopped
  intro s closing
  have same := (BootcNodePool.SameTarget.refl s.pool).setPoolDegraded
    c.env.now reason message
  exact ⟨same.targetDigest.trans closing.target,
    closing.onTime.of_eq rfl rfl rfl⟩

theorem follows_handleStepError {text : String} {e : ApiError} :
    (regime c).Follows (BlamesSpec c e)
      (handleStepError c.env c.request previous text e)
      (fun _ s => OnTime c s) exc := by
  refine .ite (fun blamed => ?_) fun _ => .fail fun s _ => stopped _ s
  exact .conseq (follows_reportDegraded stopped)
    (fun s blames => ⟨(blames blamed).1.targetDigest,
      onTime_of_undecided (blames blamed).2⟩)
    (fun _ _ after => after) fun _ _ after => after

end Status

/-! ## The context of a pass -/

/-- Not being deleted, and with the finalizer. -/
def isLive (pool : BootcNodePool) : Bool :=
  pool.deletionTimestamp.isNone ∧ finalizerPoolCleanup ∈ pool.finalizers

/-- The result of `resolveTargetDigest` in the `Reconcile` of a pool, if the
`Reconcile` gets to one. -/
def settle (r : BootcNodePoolReconciler) (env : Env) (w : World)
    (pool : BootcNodePool) : Option Resolution :=
  if (env.fails .getPool).isSome ∨ isLive pool = false then none
  else
    match (r.fetchPullSecretData env pool (.start w)).1 with
    | .error _ => none
    | .ok secretData =>
        (r.resolveTargetDigest env
          (clearPoolDegradedReason env.now poolSecretError pool)
          secretData).toOption

/-- The pool with the target digest that a pass settles on. -/
def settledPool (r : BootcNodePoolReconciler) (env : Env) (w : World)
    (pool : BootcNodePool) : BootcNodePool :=
  match r.settle env w pool with
  | none => pool
  | some resolution => resolution.pool

/-- The Node matches the selector of a pool that is not being deleted. -/
def matchesPool (r : BootcNodePoolReconciler) (w : World)
    (pool : BootcNodePool) (name : String) : Bool :=
  isLive pool &&
    match r.labelSelectorAsSelector pool.spec.nodeSelector with
    | .error _ => false
    | .ok selector =>
        ((w.api.node name).filter fun node => selector node.labels).isSome

def contextOf (r : BootcNodePoolReconciler) (env : Env) (request : String)
    (w : World) : PassContext :=
  { reconciler := r
    env := env
    request := request
    pool :=
      match w.api.pool request with
      | some pool => r.settledPool env w pool
      | none => .zero
    resolution := (w.api.pool request).bind (r.settle env w)
    isMember := fun name =>
      match w.api.pool request with
      | some pool => r.matchesPool w pool name
      | none => false }

/-- Reading the pull secret depends on the world only and changes nothing. -/
theorem fetchPullSecretData_apply
    (r : BootcNodePoolReconciler) (env : Env) (pool : BootcNodePool)
    (s : PassState) :
    r.fetchPullSecretData env pool s =
      ((r.fetchPullSecretData env pool (.start s.world)).1, s) := by
  unfold fetchPullSecretData
  cases pool.spec.pullSecretRef with
  | none => rfl
  | some ref =>
      dsimp only
      split
      · rfl
      · simp only [bind_apply, mapError, Pass.get_apply, PassState.start]
        rcases env.answer .getSecret
          (·.secret ref.secretNamespace ref.name) s.world.api with e | found
        · rfl
        · cases found with
          | none => rfl
          | some secret =>
              dsimp only
              cases secret.data.lookup dockerConfigJsonKey <;> rfl

/-- The parts of the pool that a resolution keeps. -/
theorem resolveTargetDigest_keeps
    {r : BootcNodePoolReconciler} {secretData : Option String}
    (resolved : r.resolveTargetDigest env pool secretData = .ok resolution) :
    resolution.pool.name = pool.name ∧ resolution.pool.uid = pool.uid ∧
      resolution.pool.spec = pool.spec := by
  have cleared : ∀ (now : Time) (reason : String) (p : BootcNodePool),
      (clearPoolDegradedReason now reason p).SameTarget p :=
    fun now reason p =>
      (BootcNodePool.SameTarget.refl p).clearPoolDegradedReason now reason
  have tag : (r.resolveTag env pool secretData).pool.name = pool.name ∧
      (r.resolveTag env pool secretData).pool.uid = pool.uid ∧
      (r.resolveTag env pool secretData).pool.spec = pool.spec := by
    unfold resolveTag applyAnswer
    cases env.resolve pool.spec.imageRef secretData with
    | error err =>
        have same := (BootcNodePool.SameTarget.refl pool).setPoolDegraded
          env.now poolTagResolutionError err
        exact ⟨same.name, same.uid, same.spec⟩
    | ok digest =>
        exact ⟨(cleared _ _ _).name, (cleared _ _ _).uid,
          (cleared _ _ _).spec⟩
  unfold resolveTargetDigest at resolved
  split at resolved
  · cases resolved
  · split at resolved
    · cases resolved
      exact ⟨(cleared _ _ _).name, (cleared _ _ _).uid,
        (cleared _ _ _).spec⟩
    · split at resolved
      · split at resolved
        · cases resolved
          exact ⟨rfl, rfl, rfl⟩
        · cases resolved
          exact tag
      · cases resolved
        exact tag

theorem settle_eq_some
    {r : BootcNodePoolReconciler}
    (settled : r.settle env w pool = some resolution) :
    ∃ secretData,
      (r.fetchPullSecretData env pool (.start w)).1 = .ok secretData ∧
      r.resolveTargetDigest env
        (clearPoolDegradedReason env.now poolSecretError pool) secretData =
          .ok resolution := by
  unfold settle at settled
  split at settled
  · cases settled
  · split at settled
    · cases settled
    · next secretData fetched =>
        refine ⟨secretData, fetched, ?_⟩
        cases resolved : r.resolveTargetDigest env
            (clearPoolDegradedReason env.now poolSecretError pool)
            secretData with
        | error e => rw [resolved] at settled; cases settled
        | ok found => rw [resolved] at settled; cases settled; rfl

theorem settledPool_keeps
    (r : BootcNodePoolReconciler) (env : Env) (w : World)
    (pool : BootcNodePool) :
    (r.settledPool env w pool).name = pool.name ∧
      (r.settledPool env w pool).uid = pool.uid ∧
        (r.settledPool env w pool).spec = pool.spec := by
  unfold settledPool
  cases settled : r.settle env w pool with
  | none => exact ⟨rfl, rfl, rfl⟩
  | some resolution =>
      obtain ⟨secretData, _, resolved⟩ := settle_eq_some settled
      have cleared :=
        (BootcNodePool.SameTarget.refl pool).clearPoolDegradedReason
          env.now poolSecretError
      obtain ⟨name, uid, spec⟩ := resolveTargetDigest_keeps resolved
      exact ⟨name.trans cleared.name, uid.trans cleared.uid,
        spec.trans cleared.spec⟩

/-! ## The whole pass -/

/-- The answer of the resolver, if it was called, is in the log. -/
def Noted (c : PassContext) (log : List Entry) : Prop :=
  ∀ resolution answer, c.resolution = some resolution →
    resolution.answer = some answer →
      ∃ entry ∈ log, entry.action = .resolve c.pool.spec.imageRef answer

section Pass

variable {c : PassContext} {previous : BootcNodePoolStatus}

/-- What holds of the log and the clock at any end. -/
structure PassEnds (c : PassContext) (s : PassState) : Prop where
  noted : Noted c s.log
  onTime : OnTime c s

/-- What is in the log stays there. -/
theorem follows_noted
    {α : Type} {pre : PassState → Prop} {m : Pass α}
    {post : α → PassState → Prop} {exc : ApiError → PassState → Prop}
    (follows : (passRegime c).Follows pre m post exc) :
    (passRegime c).Follows (fun s => pre s ∧ Noted c s.log) m
      (fun value s => post value s ∧ Noted c s.log)
      (fun e s => exc e s ∧ Noted c s.log) := by
  refine follows.withInvariant (fun seen => Noted c seen.log)
    fun {seen seen'} step noted resolution answer resolved answered => ?_
  obtain ⟨entry, member, isResolve⟩ :=
    noted resolution answer resolved answered
  exact ⟨entry, step.log_prefix.subset member, isResolve⟩

theorem follows_finishPass (nodup : (c.env.order .drainStalls).Nodup) :
    (passRegime c).Follows
      (fun s => Recalls c s ∧ s.world.Within (c.env.order .drainStalls))
      (finishPass c.env c.request previous tagTargetChanged requeueAfter)
      (fun _ s => OnTime c s) AnyError := by
  refine .bindVia
    (fun _ s => s.pool.SameTarget c.pool ∧ OnTime c s) ?_ fun stallCheck => ?_
  · intro s before
    have recorded : (observing (Step c true)).Follows
        (fun s' => s' = s ∧ Recalls c s') (recordDrainStalls c.env)
        (fun _ s' => Recalls c s' ∧ StallsReported c s.seen s'.seen)
        (fun _ _ => False) :=
      follows_recordDrainStalls before.2 nodup
    obtain ⟨steps, after⟩ := recorded s ⟨rfl, before.1⟩
    rcases outcome : recordDrainStalls c.env s with ⟨result, s'⟩
    rw [outcome] at steps after
    cases result with
    | error e => exact after.elim
    | ok stallCheck =>
        refine ⟨.single (.stalls steps after.2), after.1.target,
          fun _ name status entry => ?_⟩
        have marked : (s.world.drains name).map (·.mark c.env.now) =
            some status := (after.2.drains name).symm.trans entry
        obtain ⟨before, _, rfl⟩ := Option.map_eq_some_iff.mp marked
        exact before.isOverdue_mark c.env.now
  refine .bindVia (fun _ s => s.pool.SameTarget c.pool ∧ OnTime c s)
    (.update (fun _ _ => rfl) fun s before =>
      ⟨SameTarget.syncPoolStatus before.1 c.env.now s.rs,
        before.2.of_eq rfl rfl rfl⟩) fun _ => ?_
  refine .bindRead fun rs => ?_
  exact .conseq (passRegime_follows (follows_complete fun _ _ => trivial))
    (fun s before => ⟨before.1.1.targetDigest, before.1.2⟩)
    (fun _ _ after => after) fun _ _ after => after

theorem follows_reconcileTarget :
    (passRegime c).Follows (Ready c)
      (c.reconciler.reconcileTarget c.env c.request previous
        tagTargetChanged requeueAfter) (fun _ s => OnTime c s) AnyError := by
  refine .know (c.env.Fresh)
    (fun s ready => ready.faithful.fresh) fun fresh => ?_
  refine .know (∀ loop, (c.env.order loop).Nodup)
    (fun s ready => ready.faithful.nodup) fun nodup => ?_
  let within (seen : Seen) : Prop :=
    ∀ loop, seen.world.Within (c.env.order loop)
  have keeps : ∀ {seen seen'}, Step c false seen seen' →
      within seen → within seen' :=
    fun step kept loop => step.within (kept loop)
  have synced := (follows_syncMembership (c := c)).withInvariant within keeps
  have records : (regime c).Follows (Targets c none)
      (recordNodeEvents c.env) (fun _ s => Targets c none s) AnyError :=
    follows_recordNodeEvents
  have recorded := records.withInvariant within keeps
  have driven := (follows_driveRollout fresh).withInvariant within keeps
  refine .bindVia (fun _ s => Ready c s ∧ within s.seen)
    (.update (fun _ _ => rfl) fun s ready => ?_) fun _ => ?_
  · exact ⟨⟨ready.hasTarget,
      SameTarget.clearRolloutReasons ready.target c.env.now,
      ready.faithful, ready.members, ready.unhalted, ready.unresolved⟩,
      ready.faithful.covers⟩
  refine .bind (passRegime_follows (.attempt synced)) fun result => ?_
  cases result with
  | error e =>
      exact .conseq (passRegime_follows (follows_handleStepError anyError))
        (fun _ before => before.1) (fun _ _ after => after)
        fun _ _ after => after
  | ok _ =>
      refine .bind (.conseq (passRegime_follows recorded)
        (fun _ before => before) (fun _ _ after => after) fun e s _ => anyError e s)
        fun _ => ?_
      refine .bind (.conseq (passRegime_follows (.attempt driven))
        (fun s before => ⟨⟨before.1, before.2 _⟩, before.2⟩)
        (fun _ _ after => after) fun _ _ after => after) fun result => ?_
      cases result with
      | error e =>
          exact .conseq
            (passRegime_follows (follows_handleStepError anyError))
            (fun _ before => before.1) (fun _ _ after => after)
            fun _ _ after => after
      | ok _ =>
          exact .conseq (follows_finishPass (nodup _))
            (fun _ before => ⟨before.1, before.2 _⟩)
            (fun _ _ after => after) fun _ _ after => after

theorem follows_adoptResolution
    (resolved : c.resolution = some resolution)
    (imageRef : pool.spec.imageRef = c.pool.spec.imageRef) :
    (passRegime c).Follows (Begun w pool) (adoptResolution resolution)
      (fun _ s => Begun w resolution.pool s ∧ Noted c s.log)
      (fun _ s => Noted c s.log) := by
  have adopted : (passRegime c).Follows
      (fun s => Begun w pool s ∧ Noted c s.log)
      (update fun s => { s with pool := resolution.pool } : Pass Unit)
      (fun _ s => Begun w resolution.pool s ∧ Noted c s.log)
      (fun _ s => Noted c s.log) :=
    .update (fun _ _ => rfl) fun s before =>
      ⟨⟨before.1.world, rfl, before.1.undecided.unhalted,
        before.1.undecided.unresolved⟩, before.2⟩
  unfold adoptResolution
  cases isAnswer : resolution.answer with
  | none =>
      refine .conseq adopted (fun s begun => ⟨begun, ?_⟩)
        (fun _ _ after => after) fun _ _ after => after
      intro other answer isOther answered
      rw [← Option.some.inj (resolved.symm.trans isOther),
        isAnswer] at answered
      cases answered
  | some answer =>
      refine .bindReadOf (· = pool) (fun s begun => begun.pool)
        fun read isPool => ?_
      subst isPool
      refine .bind (follows_note (fun _ _ => .quiet (.act rfl .resolve))
        fun s before => ?_) fun _ => adopted
      refine ⟨⟨before.1.world, before.1.pool, before.1.undecided.unhalted,
        before.1.undecided.unresolved⟩, ?_⟩
      intro other answer' isOther answered
      rw [← Option.some.inj (resolved.symm.trans isOther), isAnswer,
        Option.some.injEq] at answered
      subst answered
      refine ⟨⟨.resolve read.spec.imageRef answer, s.world⟩,
        by simp [PassState.perform], ?_⟩
      rw [imageRef]

theorem noted_of_unresolved
    (unresolved : c.resolution = none) (log : List Entry) : Noted c log := by
  intro resolution answer resolved
  rw [unresolved] at resolved
  cases resolved

theorem follows_reconcileImage
    {secretData : Option String} (faithful : c.env.Faithful w)
    (spec : c.pool.spec = pool.spec)
    (members : ∀ selector,
      c.reconciler.labelSelectorAsSelector c.pool.spec.nodeSelector =
        .ok selector →
      ∀ name, c.isMember name =
        ((w.api.node name).filter fun node => selector node.labels).isSome)
    (settled : ∀ resolution,
      c.reconciler.resolveTargetDigest c.env
        (clearPoolDegradedReason c.env.now poolSecretError pool)
        secretData = .ok resolution →
      c.resolution = some resolution ∧ c.pool = resolution.pool)
    (unsettled : ∀ e,
      c.reconciler.resolveTargetDigest c.env
        (clearPoolDegradedReason c.env.now poolSecretError pool)
        secretData = .error e → c.resolution = none ∧ c.pool = pool) :
    (passRegime c).Follows (Begun w pool)
      (c.reconciler.reconcileImage c.env c.request previous secretData)
      (fun _ s => PassEnds c s) (fun _ s => Noted c s.log) := by
  have cleared :=
    (BootcNodePool.SameTarget.refl pool).clearPoolDegradedReason
      c.env.now poolSecretError
  refine .bindVia
    (fun _ => Begun w
      (clearPoolDegradedReason c.env.now poolSecretError pool))
    (.update (fun _ _ => rfl) fun s begun => ?_) fun _ => ?_
  · exact ⟨begun.world, by rw [begun.pool], begun.undecided.unhalted,
      begun.undecided.unresolved⟩
  refine .bindReadOf
    (· = clearPoolDegradedReason c.env.now poolSecretError pool)
    (fun s begun => begun.pool) fun read isPool => ?_
  subst isPool
  cases resolved : c.reconciler.resolveTargetDigest c.env
      (clearPoolDegradedReason c.env.now poolSecretError pool)
      secretData with
  | error e =>
      obtain ⟨unresolved, isPool⟩ := unsettled e resolved
      dsimp only
      refine .conseq (passRegime_follows (follows_handleStepError anyError))
        (fun s before _ => ⟨?_, before.1.undecided⟩)
        (fun _ s onTime => ⟨noted_of_unresolved unresolved s.log, onTime⟩)
        fun _ s _ => noted_of_unresolved unresolved s.log
      rw [before.1.pool, isPool]
      exact cleared
  | ok resolution =>
      obtain ⟨isResolution, isPool⟩ := settled resolution resolved
      have imageRef :
          (clearPoolDegradedReason c.env.now poolSecretError
            pool).spec.imageRef = c.pool.spec.imageRef := by
        rw [cleared.spec, spec]
      dsimp only
      refine .bind (.conseq (follows_adoptResolution isResolution imageRef)
        (fun s before => before.1) (fun _ _ after => after)
        fun _ _ after => after) fun _ => ?_
      refine .ite (fun _ => ?_) fun nonempty => ?_
      · refine .conseq
          (follows_noted (passRegime_follows (follows_complete anyError)))
          (fun s before => ⟨⟨?_, onTime_of_undecided before.1.undecided⟩,
            before.2⟩)
          (fun _ _ after => ⟨after.2, after.1⟩) fun _ _ after => after.2
        rw [before.1.pool, isPool]
      · refine .conseq (follows_noted follows_reconcileTarget)
          (fun s before => ⟨⟨⟨resolution, isResolution, nonempty⟩, ?_,
            before.1.world ▸ faithful, before.1.world ▸ members,
            before.1.undecided.unhalted, before.1.undecided.unresolved⟩,
            before.2⟩)
          (fun _ _ after => ⟨after.2, after.1⟩) fun _ _ after => after.2
        rw [before.1.pool, isPool]
        exact .refl _

theorem follows_addFinalizer (stored : w.api.pool c.request = some pool) :
    (regime c).Follows (Begun w pool) (addFinalizer c.env c.request)
      (fun _ s => Undecided s) AnyError := by
  refine .bindVia
    (fun _ => Begun w
      { pool with finalizers := pool.finalizers ++ [finalizerPoolCleanup] })
    (.update (fun _ _ => rfl) fun s begun => ⟨begun.world, ?_,
      begun.undecided.unhalted, begun.undecided.unresolved⟩) fun _ => ?_
  · simp only [begun.pool]
  refine .bindReadOf
    (· = { pool with
      finalizers := pool.finalizers ++ [finalizerPoolCleanup] })
    (fun s begun => begun.pool) fun read isPool => .mapError ?_
  subst isPool
  have ignores : IgnoresIssued fun s => Begun w
      { pool with
        finalizers := pool.finalizers ++ [finalizerPoolCleanup] } s ∧
      s.pool =
        { pool with
          finalizers := pool.finalizers ++ [finalizerPoolCleanup] } :=
    fun s calls before => ⟨⟨before.1.world, before.1.pool,
      before.1.undecided.unhalted, before.1.undecided.unresolved⟩, before.2⟩
  refine follows_updatePool pool ignores (fun _ _ _ _ => trivial)
    (fun s before => before.1.world ▸ stored) (by rfl) (by rfl) (by rfl)
    (fun s _ absent => absurd (by simp) absent) ?_
  exact fun s _ before =>
    ⟨before.1.undecided.unhalted, before.1.undecided.unresolved⟩

end Pass

section Reconcile

variable (r : BootcNodePoolReconciler) (request : String)

theorem contextOf_pool (env : Env) (stored : w.api.pool request = some pool) :
    (r.contextOf env request w).pool = r.settledPool env w pool := by
  simp only [contextOf, stored]

theorem contextOf_keeps (env : Env) (stored : w.api.pool request = some pool) :
    (r.contextOf env request w).pool.uid = pool.uid ∧
      (r.contextOf env request w).pool.spec = pool.spec := by
  rw [contextOf_pool r request env stored]
  exact (r.settledPool_keeps env w pool).2

theorem contextOf_resolution
    (env : Env) (stored : w.api.pool request = some pool) :
    (r.contextOf env request w).resolution = r.settle env w pool := by
  simp only [contextOf, stored, Option.bind_some]

theorem contextOf_isMember
    (env : Env) (stored : w.api.pool request = some pool) (name : String) :
    (r.contextOf env request w).isMember name = r.matchesPool w pool name := by
  simp only [contextOf, stored]

theorem follows_reconcileLive
    (faithful : env.Faithful w)
    (stored : w.api.pool request = some pool)
    (live : ¬ ((env.fails .getPool).isSome ∨ isLive pool = false)) :
    (passRegime (r.contextOf env request w)).Follows (Begun w pool)
      (r.reconcileLive env request)
      (fun _ s => PassEnds (r.contextOf env request w) s)
      (fun _ s => Noted (r.contextOf env request w) s.log) := by
  have isPool := contextOf_pool r request env stored
  have isResolution := contextOf_resolution r request env stored
  have isLivePool : isLive pool = true := by
    simpa using (not_or.mp live).2
  have spec : (r.contextOf env request w).pool.spec = pool.spec := by
    rw [isPool]
    exact (r.settledPool_keeps env w pool).2.2
  refine .bindReadOf (· = pool) (fun s begun => begun.pool)
    fun read isRead => ?_
  subst isRead
  refine .bindVia
    (fun result s => Begun w read s ∧
      (r.fetchPullSecretData env read (.start w)).1 = result) ?_
    fun result => ?_
  · intro s before
    have fetched := r.fetchPullSecretData_apply env read s
    rw [before.1.world] at fetched
    rw [attempt_apply, fetched]
    exact ⟨.refl, before.1, rfl⟩
  refine .assume fun fetched => ?_
  cases result with
  | error e =>
      have unresolved : (r.contextOf env request w).resolution = none := by
        rw [isResolution, settle, if_neg live, fetched]
      refine .conseq (passRegime_follows
          (follows_reportDegraded (c := r.contextOf env request w) anyError))
        (fun s begun => ⟨?_, onTime_of_undecided begun.undecided⟩)
        (fun _ s onTime => ⟨noted_of_unresolved unresolved s.log, onTime⟩)
        fun _ s _ => noted_of_unresolved unresolved s.log
      rw [begun.pool, isPool, settledPool, ← isResolution, unresolved]
  | ok secretData =>
      have settles : r.settle env w read =
          (r.resolveTargetDigest env
            (clearPoolDegradedReason env.now poolSecretError read)
            secretData).toOption := by
        rw [settle, if_neg live, fetched]
      refine follows_reconcileImage (c := r.contextOf env request w) faithful
        spec (fun selector valid name => ?_)
        (fun resolution resolved => ?_) fun e failed => ?_
      · rw [spec] at valid
        dsimp only [contextOf] at valid
        rw [contextOf_isMember r request env stored, matchesPool, valid,
          isLivePool, Bool.true_and]
      · dsimp only [contextOf] at resolved
        rw [resolved] at settles
        refine ⟨isResolution.trans settles, ?_⟩
        rw [isPool, settledPool, settles]
        rfl
      · dsimp only [contextOf] at failed
        rw [failed] at settles
        refine ⟨isResolution.trans settles, ?_⟩
        rw [isPool, settledPool, settles]
        rfl

theorem follows_reconcilePool
    (faithful : env.Faithful w) (reads : env.fails .getPool = none)
    (stored : w.api.pool request = some pool) :
    (passRegime (r.contextOf env request w)).Follows (· = .start w)
      (r.reconcilePool env request pool)
      (fun _ s => PassEnds (r.contextOf env request w) s)
      (fun _ s => Noted (r.contextOf env request w) s.log) := by
  have isResolution := contextOf_resolution r request env stored
  have uid : pool.uid = (r.contextOf env request w).pool.uid := by
    rw [contextOf_pool r request env stored]
    exact (r.settledPool_keeps env w pool).2.1.symm
  have notedUnlessLive : isLive pool = false →
      ∀ log, Noted (r.contextOf env request w) log := by
    intro notLive
    refine noted_of_unresolved ?_
    rw [isResolution, settle, if_pos (.inr notLive)]
  refine .bindVia (fun _ => Begun w pool) (.update (fun _ _ => rfl) ?_)
    fun _ => ?_
  · rintro s rfl
    exact ⟨rfl, rfl, rfl, rfl⟩
  refine .ite (fun deleted => ?_) fun notDeleted =>
    .ite (fun unfinalized => ?_) fun finalized =>
      r.follows_reconcileLive request faithful stored ?_
  · have notLive : isLive pool = false := by
      simp [isLive, Option.isSome_iff_ne_none.mp deleted]
    have leaves : ∀ name,
        (r.contextOf env request w).isMember name = false := by
      intro name
      rw [contextOf_isMember r request env stored, matchesPool, notLive,
        Bool.false_and]
    have noted := notedUnlessLive notLive
    have deletes := follows_handlePoolDeletion
      (c := r.contextOf env request w) (fun e s _ => anyError e s) faithful
      stored uid leaves
    exact .bind (.conseq (passRegime_follows deletes)
      (fun _ begun => begun) (fun _ _ after => after)
      fun _ s _ => noted s.log) fun _ =>
      .ret fun s undecided => ⟨noted s.log, onTime_of_undecided undecided⟩
  · have noted := notedUnlessLive (by simp [isLive, unfinalized])
    have adds := follows_addFinalizer (c := r.contextOf env request w) stored
    exact .bind (.conseq (passRegime_follows adds) (fun _ before => before)
      (fun _ _ after => after) fun _ s _ => noted s.log) fun _ =>
      .ret fun s undecided => ⟨noted s.log, onTime_of_undecided undecided⟩
  · have present := not_not.mp finalized
    simp [reads, isLive, present, Option.not_isSome_iff_eq_none.mp notDeleted]

theorem follows_reconcile (faithful : env.Faithful w) :
    (passRegime (r.contextOf env request w)).Follows (· = .start w)
      (r.reconcile env request)
      (fun _ s => PassEnds (r.contextOf env request w) s)
      (fun _ s => Noted (r.contextOf env request w) s.log) := by
  rintro s rfl
  have gets := Pass.get_apply env .getPool (·.pool request) "bootcnodepools"
    request (.start w)
  unfold Env.answer at gets
  rw [faithful.fresh] at gets
  unfold reconcile
  cases reads : env.fails .getPool with
  | some message =>
      have unresolved : (r.contextOf env request w).resolution = none := by
        cases stored : w.api.pool request with
        | none => simp [contextOf, stored]
        | some pool => simp [contextOf, stored, settle, reads]
      rw [reads] at gets
      rw [bind_apply, attempt_apply, gets]
      exact ⟨.refl, noted_of_unresolved unresolved _⟩
  | none =>
      rw [reads] at gets
      cases stored : w.api.pool request with
      | none =>
          have unresolved : (r.contextOf env request w).resolution = none := by
            simp [contextOf, stored]
          have absent : (fun cluster : Cluster => cluster.pool request)
              (PassState.start w).world.api = none := stored
          rw [absent] at gets
          rw [bind_apply, attempt_apply, gets]
          exact ⟨.refl, noted_of_unresolved unresolved _,
            onTime_of_undecided ⟨rfl, rfl⟩⟩
      | some pool =>
          have present : (fun cluster : Cluster => cluster.pool request)
              (PassState.start w).world.api = some pool := stored
          rw [present] at gets
          rw [bind_apply, attempt_apply, gets]
          exact r.follows_reconcilePool request faithful reads stored _ rfl

theorem reconcile_of_missing
    (faithful : env.Faithful w) (missing : w.api.pool request = none) :
    (r.reconcile env request (.start w)).2 = .start w := by
  have gets := Pass.get_apply env .getPool (·.pool request) "bootcnodepools"
    request (.start w)
  unfold Env.answer at gets
  rw [faithful.fresh] at gets
  unfold reconcile
  cases reads : env.fails .getPool with
  | some message =>
      rw [reads] at gets
      rw [bind_apply, attempt_apply, gets]
      rfl
  | none =>
      have absent : (fun cluster : Cluster => cluster.pool request)
          (PassState.start w).world.api = none := missing
      rw [reads, absent] at gets
      rw [bind_apply, attempt_apply, gets]
      rfl

theorem passSteps_of_reconcile (faithful : env.Faithful w) :
    Relation.ReflTransGen (PassStep (r.contextOf env request w))
      (PassState.start w).seen
      (r.reconcile env request (.start w)).2.seen :=
  (r.follows_reconcile request faithful (.start w) rfl).1

/-- The chain with the single steps of `recordDrainStalls`. -/
theorem steps_of_reconcile (faithful : env.Faithful w) :
    Relation.ReflTransGen (Step (r.contextOf env request w) true)
      (PassState.start w).seen
      (r.reconcile env request (.start w)).2.seen := by
  have steps := r.passSteps_of_reconcile request faithful
  generalize (r.reconcile env request (.start w)).2.seen = after at steps ⊢
  induction steps with
  | refl => exact .refl
  | tail _ step ih => exact ih.trans step.steps

/-- A `Reconcile` logs the answer of the resolver when it calls it. -/
theorem noted_of_reconcile (faithful : env.Faithful w) :
    Noted (r.contextOf env request w)
      (r.reconcile env request (.start w)).2.log := by
  have ends := (r.follows_reconcile request faithful (.start w) rfl).2
  cases result : (r.reconcile env request (.start w)).1 with
  | ok _ =>
      simp only [result] at ends
      exact ends.noted
  | error _ => simpa only [result] using ends

/-- A `Reconcile` that returns has marked the overdue drains if it has decided
about the rollout. -/
theorem onTime_of_reconcile
    (faithful : env.Faithful w)
    (returns : (r.reconcile env request (.start w)).1 = .ok requeueAfter) :
    OnTime (r.contextOf env request w)
      (r.reconcile env request (.start w)).2 := by
  have ends := (r.follows_reconcile request faithful (.start w) rfl).2
  simp only [returns] at ends
  exact ends.onTime

end Reconcile

/-! ## Invariants of a pass -/

/-- The entry is an effect that keeps the invariant. -/
structure Done (c : PassContext) (inv : World → Prop) (entry : Entry) :
    Prop where
  effect : ∃ budget before, inv before ∧
    Effect c budget entry.action before entry.after
  after : inv entry.after

/-- The induction over the steps of a pass, made once: an invariant of the
effects holds in the end and around every action. -/
theorem invariant_of_steps
    {c : PassContext} (inv : World → Prop)
    (keeps : ∀ {budget action w w'},
      Effect c budget action w w' → inv w → inv w')
    {seen seen' : Seen}
    (steps : Relation.ReflTransGen (Step c true) seen seen')
    (start : inv seen.world) (logged : ∀ entry ∈ seen.log, Done c inv entry) :
    inv seen'.world ∧ ∀ entry ∈ seen'.log, Done c inv entry := by
  induction steps with
  | refl => exact ⟨start, logged⟩
  | tail _ step ih =>
      cases step with
      | halt _ _ => exact ih
      | resolveMaxUnavailable _ _ _ _ => exact ih
      | act _ effect =>
          have after := keeps effect ih.1
          refine ⟨after, fun entry member => ?_⟩
          rcases List.mem_append.mp member with earlier | last
          · exact ih.2 entry earlier
          · have same := List.mem_singleton.mp last
            subst same
            exact ⟨⟨_, _, ih.1, effect⟩, after⟩

/-- The invariant rule for a whole `Reconcile`. -/
theorem reconcile_invariant
    (r : BootcNodePoolReconciler) (request : String) (inv : World → Prop)
    (keeps : ∀ {budget action w₁ w₂},
      Effect (r.contextOf env request w) budget action w₁ w₂ →
        inv w₁ → inv w₂) (faithful : env.Faithful w) (start : inv w) :
    inv (r.reconcile env request (.start w)).2.world ∧
      ∀ entry ∈ (r.reconcile env request (.start w)).2.log,
        Done (r.contextOf env request w) inv entry :=
  invariant_of_steps inv keeps (r.steps_of_reconcile request faithful) start
    (by simp [PassState.seen, PassState.start])

end BootcNodePoolReconciler

theorem BootcNodePoolReconciler.reconcile_within
    (r : BootcNodePoolReconciler) (request : String) {names : List String}
    (faithful : env.Faithful w) (within : w.Within names) :
    (r.reconcile env request (.start w)).2.world.Within names :=
  (r.reconcile_invariant request (World.Within · names)
    (fun effect => effect.within) faithful within).1

end BootcOperator
