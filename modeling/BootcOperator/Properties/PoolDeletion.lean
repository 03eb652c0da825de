import BootcOperator.Effects.Quiet
import BootcOperator.Properties.MembershipExact

/-!
# Deletion of a pool, exactly

What `handlePoolDeletion` leaves when it succeeds: the BootcNodes of the pool
are gone and their Nodes are handed back, all other BootcNodes and Nodes are
untouched, and the finalizer is removed.
-/

namespace BootcOperator

open Program BootcNodePoolReconciler

/-- The two objects the pool has for a node. -/
def World.objects (w : World) (name : String) :
    Option BootcNode × Option Node :=
  (w.api.bootcNode name, w.api.node name)

/-- What the deletion of a pool does to the objects of a name.  The BootcNodes
that it controls go away; a Node that is terminating already is not edited. -/
inductive Released (pool : BootcNodePool) :
    Option BootcNode × Option Node → Option BootcNode × Option Node → Prop
  | handedBack {bn : BootcNode} {node node' : Node} :
      bn.isControlledBy pool = true → node.deletionTimestamp = none →
      RestoredNode bn node node' →
      Released pool (some bn, some node) (none, some node')
  | terminating {bn : BootcNode} {node : Node} :
      bn.isControlledBy pool = true → node.deletionTimestamp ≠ none →
      Released pool (some bn, some node) (none, some node)
  | unbacked {bn : BootcNode} :
      bn.isControlledBy pool = true → Released pool (some bn, none) (none, none)
  | untouched {bn : Option BootcNode} {node : Option Node} :
      (∀ found, bn = some found → found.isControlledBy pool = false) →
      Released pool (bn, node) (bn, node)

/-- What holds after the loop has visited the names in `done`. -/
structure ReleasedUpTo (pool : BootcNodePool) (w : World)
    (done : List String) (w' : World) : Prop where
  pools : w'.api.pool = w.api.pool
  left : ∀ name, name ∉ done → w'.objects name = w.objects name
  released : ∀ name ∈ done, Released pool (w.objects name) (w'.objects name)

/-- The pool that is stored once its finalizer is removed. -/
def releasedPool (pool : BootcNodePool) : Option BootcNodePool :=
  let finalizers := pool.finalizers.filter (· ≠ finalizerPoolCleanup)
  if pool.deletionTimestamp.isSome ∧ finalizers = [] then none
  else some { pool with finalizers := finalizers }

/-- The pool loses its finalizer, and its nodes are released. -/
structure PoolDeleted (request : String) (pool : BootcNodePool)
    (w w' : World) : Prop where
  pools : w'.api.pool = Function.update w.api.pool request (releasedPool pool)
  released : ∀ name, Released pool (w.objects name) (w'.objects name)

theorem released_of_handedBack
    {pool : BootcNodePool} {bn : BootcNode} {before after : Option Node}
    (controlled : bn.isControlledBy pool = true)
    (handedBack : HandedBack bn before after) :
    Released pool (some bn, before) (none, after) := by
  cases before with
  | none =>
      rw [show after = none from handedBack]
      exact .unbacked controlled
  | some node =>
      by_cases alive : node.deletionTimestamp = none
      · rw [HandedBack, if_pos alive] at handedBack
        obtain ⟨node', rfl, same⟩ := handedBack
        exact .handedBack controlled alive (restored_of_unversioned same)
      · rw [HandedBack, if_neg alive] at handedBack
        rw [handedBack]
        exact .terminating controlled alive

section Deletion

variable {env : Env} {exc : ApiError → PassState → Prop} {request : String}
  {pool : BootcNodePool} {w : World} {done : List String} {name : String}

theorem ReleasedUpTo.visit
    {w₁ w₂ : World} (upTo : ReleasedUpTo pool w done w₁)
    (pools : w₂.api.pool = w₁.api.pool)
    (elsewhere : ∀ other, other ≠ name → w₂.objects other = w₁.objects other)
    (here : Released pool (w.objects name) (w₂.objects name)) :
    ReleasedUpTo pool w (done ++ [name]) w₂ := by
  refine ⟨pools.trans upTo.pools, fun other notDone => ?_,
    fun other member => ?_⟩
  · simp only [List.mem_append, List.mem_singleton, not_or] at notDone
    exact (elsewhere other notDone.2).trans (upTo.left other notDone.1)
  · by_cases same : other = name
    · exact same ▸ here
    · rw [elsewhere other same]
      exact upTo.released other (by simpa [same] using member)

theorem yields_removeForDeletion
    (stopped : Yields env exc) (notDone : name ∉ done)
    (fresh : env.Fresh) :
    unobserved.Follows (fun s => ReleasedUpTo pool w done s.world)
      (removeForDeletion env pool w.api.bootcNode name)
      (fun _ s => ReleasedUpTo pool w (done ++ [name]) s.world) exc := by
  have skip : (∀ bn, w.api.bootcNode name = some bn →
      bn.isControlledBy pool = false) → ∀ s : PassState,
      ReleasedUpTo pool w done s.world →
        ReleasedUpTo pool w (done ++ [name]) s.world := by
    intro foreign s upTo
    refine upTo.visit rfl (fun _ _ => rfl) ?_
    rw [upTo.left name notDone]
    exact .untouched foreign
  unfold removeForDeletion
  cases stored : w.api.bootcNode name with
  | none => exact .ret (skip (by simp [stored]))
  | some bn =>
      refine .ite (fun controlled => .mapError fun s upTo => ?_)
        fun foreign => .ret (skip (by simpa [stored] using foreign))
      -- `Local` does not follow the stored pools, so they come from `Quiet`
      have pools := congrArg Findings.storedPools
        (quiet_removeBootcNode env (.self anyAction) name bn s).findings
      obtain ⟨chain, ends⟩ := yields_removeBootcNode (stopped.wrap _) fresh s
        (Local.refl s name)
      refine ⟨chain, ?_⟩
      split at ends
      · obtain ⟨after, isLocal, handedBack⟩ := ends
        have isNode : s.world.api.node name = w.api.node name :=
          congrArg Prod.snd (upTo.left name notDone)
        refine upTo.visit pools (fun other different => ?_) ?_
        · exact congrArg (fun look => (look.bootcNode, look.node))
            (isLocal.elsewhere other different)
        · rw [World.objects, World.objects, isLocal.bootcNode_eq,
            isLocal.node_eq, stored]
          exact released_of_handedBack controlled (isNode ▸ handedBack)
      · exact ends

theorem yields_releasePool
    (stored : w.api.pool request = some pool)
    (covers : ∀ name, w.api.bootcNode name ≠ none → name ∈ done) :
    unobserved.Follows (fun s => ReleasedUpTo pool w done s.world)
      (Pass.updatePool env request
        { pool with
          finalizers := pool.finalizers.filter (· ≠ finalizerPoolCleanup) })
      (fun _ s => PoolDeleted request pool w s.world)
      (fun e _ => e.kind = .other ∧ env.Failing) := by
  refine .bindVia (fun _ s => ReleasedUpTo pool w done s.world)
    (.bindVia (fun _ s => ReleasedUpTo pool w done s.world)
      (.update (fun _ _ => rfl) fun _ upTo => upTo) fun _ => ?_) fun _ => ?_
  · unfold Pass.send
    cases refused : env.fails .updatePool with
    | none => exact .ret fun _ upTo => upTo
    | some message =>
        exact .fail fun _ _ => ⟨rfl, .updatePool, by simp [refused]⟩
  refine .bindReadOf (· = some pool)
    (fun s upTo => (congrFun upTo.pools request).trans stored)
    fun found isFound => ?_
  subst isFound
  refine .step (fun _ _ => trivial) fun s before => ⟨?_, fun name => ?_⟩
  · rw [← before.1.pools]
    rfl
  · by_cases visited : name ∈ done
    · exact before.1.released name visited
    · have absent := not_not.mp (mt (covers name) visited)
      show Released pool _ (s.world.objects name)
      rw [before.1.left name visited]
      exact .untouched (by simp [absent])

theorem yields_handlePoolDeletion
    (stopped : Yields env exc) (faithful : env.Faithful w)
    (stored : w.api.pool request = some pool)
    (finalized : finalizerPoolCleanup ∈ pool.finalizers) :
    unobserved.Follows (fun s => s.world = w ∧ s.pool = pool)
      (handlePoolDeletion env request)
      (fun _ s => PoolDeleted request pool w s.world) exc := by
  refine .bindReadOf (· = pool) (fun s before => before.2)
    fun read isPool => ?_
  subst isPool
  refine .ite (fun absent => absurd finalized absent) fun _ => ?_
  refine .bind (.mapError (.mapError (follows_query faithful.fresh
    ((stopped.wrap _).wrap _).stops))) fun all =>
      .know (all = w.api.bootcNode)
        (fun s before => before.1.1.1 ▸ before.2) fun isAll => ?_
  subst isAll
  refine .bind (.weaken (.forEach
    (fun done s => ReleasedUpTo read w done s.world)
    fun done name rest split => yields_removeForDeletion stopped
      (not_mem_of_nodup_append (faithful.nodup _) split) faithful.fresh)
    fun s before => ?_) fun _ => ?_
  · rw [before.1.1.1]
    exact ⟨rfl, fun _ _ => rfl, by simp⟩
  refine .bindVia
    (fun _ s => ReleasedUpTo read w (env.order .deletedPool) s.world)
    (.update (fun _ _ => rfl) fun s upTo => upTo) fun _ => ?_
  refine .bind (.attempt (yields_releasePool stored
    (faithful.covers .deletedPool).bootcNode)) fun result => ?_
  cases result with
  | ok _ => exact .ret fun _ deleted => deleted
  | error err =>
      refine .ite (fun missing => ?_) fun _ => ?_
      · exact .ret fun _ after => absurd (after.1.symm.trans missing) (by simp)
      · exact .fail fun s after => stopped after.2 _ s (.inl after.1)

end Deletion

/-- The deletion of a pool succeeds unless a request fails; once it has
succeeded, what the pool controlled is handed back, nothing else is touched,
and the finalizer is gone. -/
theorem pool_deletion_exact
    {env : Env} {request : String} {s : PassState}
    (faithful : env.Faithful s.world)
    (stored : s.world.api.pool request = some s.pool)
    (finalized : finalizerPoolCleanup ∈ s.pool.finalizers) :
    let outcome := handlePoolDeletion env request s
    (¬ env.Failing → outcome.1 = .ok ()) ∧
      (outcome.1 = .ok () →
        PoolDeleted request s.pool s.world outcome.2.world) := by
  intro outcome
  have stopped : Yields env fun _ _ => env.Failing :=
    fun failing _ _ _ => failing
  have ends := (yields_handlePoolDeletion stopped faithful stored finalized s
    ⟨rfl, rfl⟩).2
  split at ends
  · next isOk => exact ⟨fun _ => isOk, fun _ => ends⟩
  · next isError =>
      refine ⟨fun calm => absurd ends calm, fun isOk => ?_⟩
      rw [isError] at isOk
      cases isOk

/-- A `Reconcile` of a terminating pool with one node in its slot. -/
def deletionStart : PassState :=
  { PassState.start (Tables.world
      { nodes := [("n", { plainNode with unschedulable := true })]
        bootcNodes := [("n", stagedNode "os@b" "os@a")]
        pools := [("workers",
          { osPool "os@b" with deletionTimestamp := some 0 })] }) with
    pool := { osPool "os@b" with deletionTimestamp := some 0 } }

/-- The node is handed back and the pool is gone. -/
theorem pool_deletion_exact_single :
    let outcome := handlePoolDeletion (.calm ["n"] 0) "workers" deletionStart
    outcome.1 = .ok () ∧ outcome.2.world.api.pool "workers" = none ∧
      PoolDeleted "workers" deletionStart.pool deletionStart.world
        outcome.2.world := by
  have faithful : (Env.calm ["n"] 0).Faithful deletionStart.world :=
    Env.faithful_calm (Tables.within_names _) (by decide)
  have stored : deletionStart.world.api.pool "workers" =
      some deletionStart.pool := rfl
  have deletion := pool_deletion_exact faithful stored (by decide)
  have succeeds := deletion.1 fun ⟨_, fails⟩ => fails rfl
  refine ⟨succeeds, ?_, deletion.2 succeeds⟩
  rw [(deletion.2 succeeds).pools, Function.update_self]
  decide

end BootcOperator
