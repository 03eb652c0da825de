import BootcOperator.Effects.Diagnosis
import BootcOperator.Effects.Requeues
import BootcOperator.Effects.Slotting
import BootcOperator.Effects.Tables

/-!
# The reason for a halted rollout

`driveRollout` halts when two nodes that hold a reboot slot are unhealthy.  The
nodes are collected from three lists, and a node whose reboot has timed out is
in two of them.  It is counted once because the node that reboots from another
image than the target does not run the target: the classification and the
search for unhealthy slots compare with the same digest.
-/

namespace BootcOperator

open Program BootcNodePoolReconciler

variable {env : Env} {s : PassState}

/-! ## Nodes that should not hold a slot any more -/

/-- What makes a node in a slot count as unhealthy. -/
inductive Ails (lib : ReferenceLibrary) (pool : BootcNodePool) (now : Time)
    (w : World) (name : String) (bn : BootcNode) : Prop
  /-- the daemon reports a problem, with nothing or the target booted -/
  | degraded :
      isStatusConditionTrue bn.status.conditions nodeDegraded = true →
      (bn.status.booted = none ∨ infoMatchesDigest lib bn.status.booted
        pool.status.targetDigest = true) →
      Ails lib pool now w name bn
  /-- the node is up to date, and its Node is not ready -/
  | notReady {node : Node} :
      classifyNode lib bn = .ok .upToDate →
      w.api.node name = some node →
      nodeReadyStatus node ≠ .conditionTrue →
      Ails lib pool now w name bn
  /-- the node has been rebooting for longer than the timeout -/
  | rebootTimeout {idle : Condition} :
      classifyNode lib bn = .ok .rebooting →
      0 < resolveRebootTimeout pool →
      findStatusCondition bn.status.conditions nodeIdle = some idle →
      resolveRebootTimeout pool < now - idle.lastTransitionTime →
      Ails lib pool now w name bn

/-- The owned nodes in a slot that ail. -/
def ailingSlots (lib : ReferenceLibrary) (now : Time) (s : PassState) :
    Set String :=
  {name | ∃ bn, s.owned name = some bn ∧ bn.inRebootSlot = true ∧
    Ails lib s.pool now s.world name bn}

/-- A node that is up to date keeps its slot only while its Node is not
ready. -/
theorem heldUnready_of_freeCompletedSlots
    {s' : PassState} {name : String} {bn : BootcNode} (fresh : env.Fresh)
    (nodup : s.rs.upToDate.Nodup) (stored : ∀ bn, s.owned name = some bn →
      s.world.api.bootcNode name = some bn)
    (returned : freeCompletedSlots env s = (.ok (), s'))
    (member : name ∈ s.rs.upToDate) (owned : s'.owned name = some bn) :
    HeldUnready bn (s'.world.api.node name) := by
  obtain ⟨_, _, isRead, visits⟩ := ok_of_bind returned
  cases isRead
  have others : ∀ other, other ≠ name →
      Moves (Keeping fun s => s.look name) (freeCompletedSlot env other) :=
    fun other different s =>
      (confined_freeCompletedSlot env (.self _) s).look different.symm
  obtain ⟨mid, mid', atMid, visited, final⟩ :=
    part_of_forEach_ok (fun s => s.look name) nodup member others visits
  cases isOwned : s.owned name with
  | none =>
      have unowned : mid.owned name = none :=
        (congrArg Look.owned atMid).trans isOwned
      have skipped : freeCompletedSlot env name mid = (.ok (), mid) := by
        unfold freeCompletedSlot
        rw [bind_apply, read_apply]
        simp only [unowned, pure_apply]
      rw [skipped, Prod.mk.injEq] at visited
      have same : s'.owned name = mid.owned name :=
        (congrArg Look.owned final).trans (by rw [← visited.2]; rfl)
      rw [same, unowned] at owned
      cases owned
  | some old =>
      have look : mid.look name =
          ⟨some old, s.world.api.node name, some old⟩ := by
        rw [atMid, PassState.look, stored old isOwned, isOwned]
      obtain ⟨bn', node', isLocal, held⟩ :=
        (yields_freeCompletedSlot AnyError.tolerant.yields
          (fun _ => AnyError.tolerant) fresh).returns
          (look ▸ Local.refl mid name) visited
      have here := final.trans isLocal.here
      have isBn : s'.owned name = some bn' := congrArg Look.owned here
      have isNode : s'.world.api.node name = node' :=
        congrArg Look.node here
      rw [isBn, Option.some.injEq] at owned
      rw [← owned, isNode]
      exact held

/-! ## The search for unhealthy slots -/

/-- The part of `driveRollout` that looks for unhealthy slots: classify the
nodes, free the completed slots and look at the rest. -/
def BootcNodePoolReconciler.examineSlots (r : BootcNodePoolReconciler)
    (env : Env) : Pass (List UnhealthySlot) := do
  r.classifyNodes env
  mapError (.wrap "freeing completed slots: ") (freeCompletedSlots env)
  read fun s =>
    findUnhealthySlots r.references s.owned s.rs s.pool.status.targetDigest

/-- The findings name each element of a set once. -/
structure ListsOnce (found : List UnhealthySlot) (names : Set String) :
    Prop where
  nodup : (found.map (·.name)).Nodup
  mem_iff : ∀ name, name ∈ found.map (·.name) ↔ name ∈ names

theorem ListsOnce.two_le_iff
    {found : List UnhealthySlot} {names : Set String}
    (lists : ListsOnce found names) : 2 ≤ found.length ↔ 2 ≤ names.encard := by
  have same : names = ((found.map (·.name)).toFinset : Set String) := by
    ext name
    rw [List.coe_toFinset]
    exact (lists.mem_iff name).symm
  rw [same, Set.encard_coe_eq_coe_finsetCard,
    List.toFinset_card_of_nodup lists.nodup, List.length_map]
  norm_cast

section Search

variable {c : PassContext} {s₁ s₂ s₃ : PassState}

theorem BootcNodePoolReconciler.Examined.ails_iff
    (examined : Examined c s₁ s₂ s₃) (targets : Targets c none s₁)
    (held : ∀ name bn, name ∈ s₂.rs.upToDate → s₃.owned name = some bn →
      HeldUnready bn (s₃.world.api.node name))
    {name : String} {bn : BootcNode} (owned : s₃.owned name = some bn)
    (slotted : bn.inRebootSlot = true) :
    IsUnhealthy c.reconciler.references (resolveRebootTimeout c.pool)
        c.env.now c.pool.status.targetDigest bn ↔
      Ails c.reconciler.references s₃.pool c.env.now s₃.world name bn := by
  have targets₃ := examined.rolling.toTargets
  have timeout : resolveRebootTimeout s₃.pool =
      resolveRebootTimeout c.pool := by
    unfold resolveRebootTimeout
    rw [targets₃.target.spec]
  have states : stateOf c.reconciler.references s₃.owned =
      stateOf c.reconciler.references s₁.owned :=
    stateOf_congr (owned_diagnosis targets.recalls targets₃.recalls
      examined.agree)
  constructor
  · rintro (⟨state, booted⟩ | state | ⟨state, timedOut⟩)
    · exact .degraded (classifyNode_eq_degraded.mp state)
        (targets₃.target.targetDigest ▸ booted)
    · have member : name ∈ s₂.rs.upToDate := by
        rw [examined.classified.upToDate, List.mem_filter, ← states]
        refine ⟨targets₃.reached owned _, ?_⟩
        simpa using (stateOf_eq_some _ _).mpr ⟨bn, owned, state⟩
      obtain ⟨node, present, notReady⟩ := held name bn member owned slotted
      exact .notReady state present notReady
    · obtain ⟨positive, idle, found, late⟩ :=
        (rebootTimedOut_iff _ _ state).mp timedOut
      rw [← timeout] at positive late
      exact .rebootTimeout state positive found late
  · rintro (⟨degraded, booted⟩ | ⟨state, _, _⟩ |
      ⟨state, positive, found, late⟩)
    · exact .inl ⟨classifyNode_eq_degraded.mpr degraded,
        targets₃.target.targetDigest ▸ booted⟩
    · exact .inr (.inl state)
    · rw [timeout] at positive late
      exact .inr (.inr ⟨state,
        (rebootTimedOut_iff _ _ state).mpr ⟨positive, _, found, late⟩⟩)

/-- `findUnhealthySlots` lists the ailing nodes with slots, each once. -/
theorem BootcNodePoolReconciler.Examined.listsOnce
    (examined : Examined c s₁ s₂ s₃) (targets : Targets c none s₁)
    (nodup : (c.env.order .classification).Nodup)
    (canonical : ∀ digest,
      c.reconciler.references.digestOf c.desiredImage = some digest →
        digest = c.pool.status.targetDigest)
    (held : ∀ name bn, name ∈ s₂.rs.upToDate → s₃.owned name = some bn →
      HeldUnready bn (s₃.world.api.node name)) :
    ListsOnce
      (findUnhealthySlots c.reconciler.references s₃.owned s₃.rs
        s₃.pool.status.targetDigest)
      (ailingSlots c.reconciler.references c.env.now s₃) := by
  have listed := examined.names targets canonical
  refine ⟨listed ▸ nodup_unhealthyNames nodup, fun name => ?_⟩
  rw [listed, mem_unhealthyNames]
  constructor
  · rintro ⟨_, bn, owned, slotted, unhealthy⟩
    exact ⟨bn, owned, slotted,
      (examined.ails_iff targets held owned slotted).mp unhealthy⟩
  · rintro ⟨bn, owned, slotted, ails⟩
    exact ⟨examined.rolling.reached owned _, bn, owned, slotted,
      (examined.ails_iff targets held owned slotted).mpr ails⟩

theorem listsOnce_of_examineSlots
    {unhealthy : List UnhealthySlot}
    (fresh : c.env.Fresh)
    (nodup : (c.env.order .classification).Nodup)
    (canonical : ∀ digest,
      c.reconciler.references.digestOf c.desiredImage = some digest →
        digest = c.pool.status.targetDigest)
    (targets : Targets c none s₁)
    (returned : c.reconciler.examineSlots c.env s₁ = (.ok unhealthy, s₃)) :
    ListsOnce unhealthy (ailingSlots c.reconciler.references c.env.now s₃) ∧
      s₃.rolloutHalted = false ∧
      ∃ done, s₃.log = s₁.log ++ done ∧
        ∀ entry ∈ done, entry.action.settles = true := by
  obtain ⟨_, s₂, classified, returned⟩ := ok_of_bind returned
  obtain ⟨_, _, freed, isRead⟩ := ok_of_bind returned
  cases isRead
  have freed := ok_of_mapError freed
  have examined := examined_of_freeCompletedSlots fresh targets classified
    freed
  have isClassified := examined.classified
  refine ⟨?_, examined.rolling.unhalted, ?_⟩
  · refine examined.listsOnce targets nodup canonical ?_
    intro name bn member owned
    refine heldUnready_of_freeCompletedSlots fresh ?_ ?_ freed member owned
    · rw [isClassified.upToDate]
      exact nodup.filter _
    · intro old isOld
      rw [isClassified.owned] at isOld
      rw [isClassified.world]
      exact (targets.owns isOld).stored
  · have quiet : Quiet Action.settles (freeCompletedSlots c.env) :=
      Moves.bind (Moves.read _) fun _ => Moves.forEach fun _ =>
        quiet_of_confined (confined_freeCompletedSlot c.env (.self _))
    have performed := (quiet s₂).log
    have unlogged : s₂.log = s₁.log := by
      unfold classifyNodes at classified
      rw [update_apply, Prod.mk.injEq] at classified
      rw [← classified.2]
    rw [freed, unlogged] at performed
    exact performed

end Search

/-! ## Halting -/

/-- The action gives a slot or starts a drain. -/
def Action.advances : Action → Bool
  | .wrote (.assignSlot _) | .startDrain _ => true
  | _ => false

theorem Action.not_advances_of_settles
    {action : Action} (settles : action.settles = true) :
    action.advances = false := by
  unfold Action.settles at settles
  split at settles <;> first | rfl | cases settles

/-- The rollout is halted: it is reported, unless a problem with a higher
precedence is, which then stays as it was, and nothing else is done after the
search for unhealthy slots that ends in `examined`; no slot is assigned and no
drain is started since the beginning. -/
structure HaltedExit (env : Env) (start examined : PassState)
    (outcome : Except ApiError Unit × PassState) : Prop where
  returned : outcome.1 = .ok ()
  halted : outcome.2.rolloutHalted = true
  reported : ¬ Outranked examined.pool poolRolloutHalted →
    degradedReason outcome.2.pool = some poolRolloutHalted
  unreported : Outranked examined.pool poolRolloutHalted →
    outcome.2.pool = examined.pool
  world : outcome.2.world = examined.world
  idle : ∃ done, outcome.2.log = start.log ++ done ∧
    ∀ entry ∈ done, entry.action.advances = false

theorem driveRollout_of_examineSlots
    {r : BootcNodePoolReconciler} {s₁ s₂ : PassState}
    {unhealthy : List UnhealthySlot}
    (collected : collectDrainResults env s = (.ok (), s₁))
    (examined : r.examineSlots env s₁ = (.ok unhealthy, s₂)) :
    r.driveRollout env s =
      if unhealthySlotHaltThreshold ≤ unhealthy.length then
        haltRollout env unhealthy s₂
      else r.advanceRollout env s₂ := by
  obtain ⟨_, classified, isClassified, examined⟩ := ok_of_bind examined
  obtain ⟨_, freed, isFreed, isRead⟩ := ok_of_bind examined
  cases isRead
  have first : mapError (.wrap "collecting drain results: ")
      (collectDrainResults env) s = (.ok (), s₁) := by
    unfold mapError
    rw [collected]
  unfold driveRollout
  rw [bind_apply_of_ok first, bind_apply_of_ok isClassified,
    bind_apply_of_ok isFreed, bind_apply_of_ok (read_apply _ _)]
  split <;> rfl

theorem keeps_rolloutHalted_advanceRollout
    (r : BootcNodePoolReconciler) (env : Env) :
    Moves (Keeping PassState.rolloutHalted) (r.advanceRollout env) := by
  have confined {α : Type} {name : String} {m : Pass α}
      (moves : Moves (Confined Action.keepsSlots name) m) :
      Moves (Keeping PassState.rolloutHalted) m :=
    fun s => congrArg Shared.rolloutHalted (moves s).shared
  have process (name : String) : Moves (Keeping PassState.rolloutHalted)
      (processCandidate env name) :=
    confined (confined_processCandidate env (.self _))
  have assign (available assigned : Int) (names : List String) :
      Moves (Keeping PassState.rolloutHalted)
        (assignUnslotted env available assigned names) := by
    induction names generalizing assigned with
    | nil => exact Moves.ret _
    | cons name rest ih =>
        refine Moves.ite (Moves.ret _) ?_
        exact Moves.bind (process name) fun _ => ih _
  refine Moves.bind (Moves.read _) fun pool => ?_
  refine Moves.bind (Moves.read _) fun rs => ?_
  refine Moves.bind (Moves.ofExcept _) fun maxUnavail => ?_
  refine Moves.bind (Moves.update fun _ => rfl) fun _ => ?_
  refine Moves.bind (Moves.read _) fun owned => ?_
  refine Moves.bind (Moves.forEach fun name =>
    Moves.bind (process name) fun _ => Moves.ret _) fun _ => ?_
  refine Moves.bind (assign _ _ _) fun _ => ?_
  refine Moves.bind (Moves.update fun s => ?_) fun _ =>
    Moves.forEach fun name => confined (confined_drainStaged env (.self _))
  unfold Keeping
  split <;> rfl

/-- What `driveRollout` is called with: the owned nodes are the BootcNodes
that the pool controls, they are synced to the target of the pool, reads are
fresh and loops complete. -/
structure Synced (r : BootcNodePoolReconciler) (env : Env) (s : PassState) :
    Prop where
  faithful : env.Faithful s.world
  owned : ∀ name, s.owned name =
    (s.world.api.bootcNode name).filter (·.isControlledBy s.pool)
  targeted : ∀ name bn, s.owned name = some bn →
    bn.spec.desiredImage = r.desiredImageFromPool s.pool
  digest : ∀ digest,
    r.references.digestOf (r.desiredImageFromPool s.pool) = some digest →
      digest = s.pool.status.targetDigest
  unhalted : s.rolloutHalted = false
  unresolved : s.maxUnavail = none

/-- The pass as `driveRollout` sees it. -/
def BootcNodePoolReconciler.rolloutContext (r : BootcNodePoolReconciler)
    (env : Env) (s : PassState) : PassContext :=
  { reconciler := r
    env := env
    request := s.pool.name
    pool := s.pool
    resolution := none
    isMember := fun _ => true }

theorem Synced.targets
    {r : BootcNodePoolReconciler} (synced : Synced r env s) :
    Targets (r.rolloutContext env s) none s where
  target := .refl s.pool
  owned := synced.owned
  covered loop name isOwned := by
    refine (synced.faithful.covers loop).bootcNode name fun absent => ?_
    rw [synced.owned, absent] at isOwned
    exact isOwned rfl
  unhalted := synced.unhalted
  resolved := synced.unresolved
  targeted := synced.targeted
  members _ _ := rfl

/-- Unhealthy slots are found exactly, and two of them halt the rollout. -/
theorem rollout_halts_on_two_unhealthy
    (r : BootcNodePoolReconciler) (env : Env) (s : PassState)
    (synced : Synced r env s) :
    (∀ unhealthy s', r.examineSlots env s = (.ok unhealthy, s') →
      ListsOnce unhealthy (ailingSlots r.references env.now s')) ∧
    ∀ s₁ s₂ unhealthy, collectDrainResults env s = (.ok (), s₁) →
      r.examineSlots env s₁ = (.ok unhealthy, s₂) →
      ListsOnce unhealthy (ailingSlots r.references env.now s₂) ∧
      (HaltedExit env s s₂ (r.driveRollout env s) ↔
        2 ≤ (ailingSlots r.references env.now s₂).encard) ∧
      ((ailingSlots r.references env.now s₂).encard < 2 →
        (r.driveRollout env s).2.rolloutHalted = false ∧
          r.driveRollout env s = r.advanceRollout env s₂) := by
  have fresh := synced.faithful.fresh
  have nodup := synced.faithful.nodup .classification
  have targets := synced.targets
  have stopped := BlamesSpec.tolerant (r.rolloutContext env s)
  refine ⟨fun unhealthy s' returned => ?_, ?_⟩
  · exact (listsOnce_of_examineSlots fresh nodup synced.digest targets
      returned).1
  intro s₁ s₂ unhealthy collected examined
  obtain ⟨targets₁, _⟩ := (follows_collectDrainResults stopped).returns
    ⟨targets, synced.faithful.covers .drainResults⟩ collected
  obtain ⟨lists, unhalted, freed, isFreed, settled⟩ :=
    listsOnce_of_examineSlots fresh nodup synced.digest targets₁ examined
  have outcome := driveRollout_of_examineSlots collected examined
  have threshold : unhealthySlotHaltThreshold ≤ unhealthy.length ↔
      2 ≤ (ailingSlots r.references env.now s₂).encard := lists.two_le_iff
  have advances (few : ¬ unhealthySlotHaltThreshold ≤ unhealthy.length) :
      (r.driveRollout env s).2.rolloutHalted = false := by
    rw [outcome, if_neg few]
    exact (keeps_rolloutHalted_advanceRollout r env s₂).trans unhalted
  refine ⟨lists, ⟨fun halted => ?_, fun two => ?_⟩, fun fewer => ?_⟩
  · rw [← threshold]
    by_contra few
    have notHalted := advances few
    rw [halted.halted] at notHalted
    cases notHalted
  · rw [outcome, if_pos (threshold.mpr two)]
    refine ⟨rfl, rfl, fun prevails =>
      degradedReason_setPoolDegraded env.now _ prevails, fun outranked =>
      setPoolDegraded_of_outranked env.now _ outranked, rfl, ?_⟩
    have quiet : Quiet Action.settles (collectDrainResults env) :=
      Moves.forEach fun _ =>
        quiet_of_confined (confined_collectDrainResult env (.self _))
    obtain ⟨done, isDone, settles⟩ := (quiet s).log
    rw [collected] at isDone
    refine ⟨done ++ freed, ?_, fun entry member => ?_⟩
    · rw [← List.append_assoc, ← isDone]
      exact isFreed
    · refine Action.not_advances_of_settles ?_
      rcases List.mem_append.mp member with before | after
      · exact settles entry before
      · exact settled entry after
  · have few : ¬ unhealthySlotHaltThreshold ≤ unhealthy.length :=
      fun many => absurd (threshold.mp many) (not_le.mpr fewer)
    exact ⟨advances few, by rw [outcome, if_neg few]⟩

/-! ## Two broken nodes -/

/-- A node that runs the target in its slot, with a problem. -/
def brokenInSlot : BootcNode :=
  { stagedNode "os@b" "os@b" with
    annotations := Annotations.empty.set .inRebootSlot ""
    status :=
      { (stagedNode "os@b" "os@b").status with
        conditions :=
          [{ type := nodeDegraded
             status := .conditionTrue
             reason := "StagingFailed"
             message := ""
             observedGeneration := 1
             lastTransitionTime := 0 }] } }

def twoBroken : Tables :=
  { nodes := [("n1", plainNode), ("n2", plainNode)]
    bootcNodes := [("n1", brokenInSlot), ("n2", brokenInSlot)] }

def brokenPool : BootcNodePool :=
  { osPool "os:1" with
    status := { (osPool "os:1").status with targetDigest := "b" } }

/-- The pass of a pool with two unhealthy slots. -/
def brokenRollout (pool : BootcNodePool) : PassState :=
  { PassState.start twoBroken.world with
    pool := pool
    owned := twoBroken.world.api.bootcNode }

theorem synced_brokenRollout
    {pool : BootcNodePool} (uid : pool.uid = brokenPool.uid)
    (target : osReconciler.desiredImageFromPool pool = "os@b")
    (targetDigest : pool.status.targetDigest = "b") :
    Synced osReconciler (.calm ["n1", "n2"] 0) (brokenRollout pool) := by
  have entries : ∀ name bn, (brokenRollout pool).owned name = some bn →
      bn = brokenInSlot := by
    intro name bn isOwned
    have member : (name, bn) ∈ twoBroken.bootcNodes :=
      mem_of_lookup_eq_some isOwned
    simp only [twoBroken, List.mem_cons, Prod.mk.injEq, List.not_mem_nil,
      or_false] at member
    rcases member with ⟨_, isBroken⟩ | ⟨_, isBroken⟩ <;> exact isBroken
  have controlled : brokenInSlot.isControlledBy pool = true := by
    unfold BootcNode.isControlledBy
    rw [uid]
    decide
  refine ⟨Env.faithful_calm twoBroken.within_names (by decide), ?_, ?_, ?_,
    rfl, rfl⟩
  · intro name
    cases isOwned : (brokenRollout pool).owned name with
    | none =>
        have absent : (brokenRollout pool).world.api.bootcNode name = none :=
          isOwned
        rw [absent, Option.filter_none]
    | some bn =>
        have stored : (brokenRollout pool).world.api.bootcNode name =
            some bn := isOwned
        rw [entries name bn isOwned] at stored ⊢
        rw [stored, Option.filter_some]
        exact (if_pos controlled).symm
  · intro name bn isOwned
    rw [entries name bn isOwned]
    exact target.symm
  · intro digest isDigest
    have computed : osReconciler.references.digestOf "os@b" = some "b" := by
      decide
    have isTarget : osReconciler.references.digestOf "os@b" = some digest :=
      target ▸ isDigest
    exact (Option.some.inj (isTarget.symm.trans computed)).trans
      targetDigest.symm

/-- Two unhealthy slots halt the rollout. -/
theorem rollout_halts_on_two_broken :
    ∃ examined, HaltedExit (.calm ["n1", "n2"] 0) (brokenRollout brokenPool)
      examined (osReconciler.driveRollout (.calm ["n1", "n2"] 0)
        (brokenRollout brokenPool)) := by
  have collects : (collectDrainResults (.calm ["n1", "n2"] 0)
      (brokenRollout brokenPool)).1.isOk = true := by decide +kernel
  obtain ⟨_, s₁, collected⟩ := exists_of_isOk collects
  have examines : (osReconciler.examineSlots (.calm ["n1", "n2"] 0)
      (collectDrainResults (.calm ["n1", "n2"] 0)
        (brokenRollout brokenPool)).2).1.map List.length = .ok 2 := by
    decide +kernel
  rw [collected] at examines
  rcases found : osReconciler.examineSlots (.calm ["n1", "n2"] 0) s₁ with
    ⟨result, s₂⟩
  rw [found] at examines
  cases result with
  | error e => cases examines
  | ok unhealthy =>
      have two : unhealthy.length = 2 := Except.ok.inj examines
      obtain ⟨lists, halts, _⟩ := (rollout_halts_on_two_unhealthy osReconciler
        _ _ (synced_brokenRollout rfl (by decide) rfl)).2 s₁ s₂ unhealthy
          collected found
      exact ⟨s₂, halts.mpr (lists.two_le_iff.mp two.ge)⟩

/-- The registry has failed to resolve the tag since its digest was found. -/
def unresolvedPool : BootcNodePool :=
  setPoolDegraded 0 poolTagResolutionError "registry unreachable" brokenPool

/-- The rollout halts on two unhealthy slots, and the pool goes on reporting
the tag that was not resolved. -/
theorem halt_hidden_by_unresolved_tag :
    Synced osReconciler (.calm ["n1", "n2"] 0)
        (brokenRollout unresolvedPool) ∧
      (osReconciler.examineSlots (.calm ["n1", "n2"] 0)
        (brokenRollout unresolvedPool)).1.map List.length = .ok 2 ∧
      (osReconciler.driveRollout (.calm ["n1", "n2"] 0)
        (brokenRollout unresolvedPool)).1 = .ok () ∧
      (osReconciler.driveRollout (.calm ["n1", "n2"] 0)
        (brokenRollout unresolvedPool)).2.rolloutHalted = true ∧
      degradedReason (osReconciler.driveRollout (.calm ["n1", "n2"] 0)
        (brokenRollout unresolvedPool)).2.pool =
          some poolTagResolutionError := by
  refine ⟨synced_brokenRollout (by decide) (by decide) (by decide), ?_, ?_,
    ?_, ?_⟩ <;> decide +kernel

end BootcOperator
