import BootcOperator.Effects.Requeues
import BootcOperator.Effects.Slots
import BootcOperator.Effects.Tables
import BootcOperator.Lib.InPlace

/-!
# The truth of the pool status

`syncPoolStatus` adds up the buckets of a rollout.  The sums are right because
every owned node is in one bucket, also after `applyRebootTimeouts` has moved
nodes between two of them by filtering a slice in place; and the pool is
reported up to date exactly when the bucket of the nodes that run their
desired image holds them all.
-/

namespace BootcOperator

/-! ## The loop over the rebooting nodes -/

/-- What the loop of `applyRebootTimeouts` notes of the nodes it visits. -/
structure TimeoutNotes where
  degraded : List String
  rebootTimedOutNodes : List String
  requeue : Duration

section Timeouts

variable (owned : String → Option BootcNode) (timeout : Duration)
  (now : Time)

/-- One node of the loop in `applyRebootTimeoutsInPlace`. -/
def noteTimeout (notes : TimeoutNotes) (name : String) : TimeoutNotes :=
  if isRebootTimedOut owned timeout now name then
    { notes with
      degraded := notes.degraded ++ [name]
      rebootTimedOutNodes := notes.rebootTimedOutNodes ++ [name] }
  else
    { notes with requeue := soonerTimeout owned timeout now notes.requeue name }

/-- `applyRebootTimeouts` as the source runs it: the nodes that remain are
written to the front of the slice that the loop reads. -/
def applyRebootTimeoutsInPlace (rs : RolloutState) : RolloutState :=
  if timeout ≤ 0 then { rs with requeueAfter := 0 }
  else
    let scan :=
      InPlace.scan (fun name => !isRebootTimedOut owned timeout now name)
        (noteTimeout owned timeout now) rs.rebooting
        ⟨rs.degraded, rs.rebootTimedOutNodes, 0⟩
    { rs with
      rebooting := scan.front
      degraded := scan.notes.degraded
      rebootTimedOutNodes := scan.notes.rebootTimedOutNodes
      requeueAfter := scan.notes.requeue }

theorem foldl_noteTimeout (names : List String) (notes : TimeoutNotes) :
    names.foldl (noteTimeout owned timeout now) notes =
      { degraded := notes.degraded ++
          names.filter (isRebootTimedOut owned timeout now)
        rebootTimedOutNodes := notes.rebootTimedOutNodes ++
          names.filter (isRebootTimedOut owned timeout now)
        requeue :=
          (names.filter fun name =>
            !isRebootTimedOut owned timeout now name).foldl
              (soonerTimeout owned timeout now) notes.requeue } := by
  induction names generalizing notes with
  | nil => simp
  | cons name rest ih =>
      rw [List.foldl_cons, ih]
      cases timedOut : isRebootTimedOut owned timeout now name <;>
        simp [noteTimeout, timedOut]

theorem applyRebootTimeoutsInPlace_eq (rs : RolloutState) :
    applyRebootTimeoutsInPlace owned timeout now rs =
      applyRebootTimeouts owned timeout now rs := by
  unfold applyRebootTimeoutsInPlace applyRebootTimeouts
  split
  · rfl
  · dsimp only
    rw [InPlace.front_scan, InPlace.notes_scan, foldl_noteTimeout,
      rebootRequeue_eq]

end Timeouts

/-! ## Every node is in one bucket -/

/-- All buckets, one after the other. -/
def RolloutState.allNodes (rs : RolloutState) : List String :=
  rs.upToDate ++ rs.pending ++ rs.staging ++ rs.staged ++ rs.rebooting ++
    rs.degraded ++ rs.unclassified

theorem RolloutState.length_allNodes (rs : RolloutState) :
    rs.allNodes.length = rs.nodeCount := by
  simp only [allNodes, nodeCount, List.length_append]

theorem RolloutState.allNodes_add
    (rs : RolloutState) (name : String) (result : Except String NodeState) :
    (rs.add name result).allNodes.Perm (rs.allNodes ++ [name]) := by
  refine List.perm_iff_count.mpr fun other => ?_
  cases result with
  | error err =>
      simp only [add, allNodes, List.count_append]
      omega
  | ok state =>
      cases state <;>
        simp only [add, allNodes, List.count_append] <;> omega

section Buckets

variable (lib : ReferenceLibrary) (owned : String → Option BootcNode)
  (names : List String)

/-- The buckets hold the owned nodes that have been visited. -/
theorem allNodes_buildRolloutState :
    (buildRolloutState lib owned names).allNodes.Perm
      (names.filter fun name => (owned name).isSome) := by
  induction names using List.reverseRecOn with
  | nil => exact .refl _
  | append_singleton names name ih =>
      unfold buildRolloutState at *
      rw [List.foldl_append, List.filter_append, List.foldl_cons,
        List.foldl_nil, classifyInto]
      generalize names.foldl (classifyInto lib owned) {} = rs at *
      cases isOwned : owned name with
      | none => simpa [isOwned] using ih
      | some bn =>
          have counted : RolloutState.allNodes
              (if bn.inRebootSlot then
                { rs with occupiedSlots := rs.occupiedSlots + 1 }
              else rs) = rs.allNodes := by
            split <;> rfl
          have last : [name].filter (fun name => (owned name).isSome) =
              [name] := by
            simp [isOwned]
          rw [last]
          refine (RolloutState.allNodes_add _ name _).trans ?_
          rw [counted]
          exact ih.append_right [name]

variable (timeout : Duration) (now : Time)

/-- A node that times out changes its bucket and is not lost. -/
theorem allNodes_applyRebootTimeouts (rs : RolloutState) :
    (applyRebootTimeouts owned timeout now rs).allNodes.Perm
      rs.allNodes := by
  unfold applyRebootTimeouts
  split
  · exact .refl _
  · refine List.perm_iff_count.mpr fun other => ?_
    have split := (List.filter_append_perm
      (isRebootTimedOut owned timeout now) rs.rebooting).count_eq other
    simp only [RolloutState.allNodes, List.count_append] at split ⊢
    omega

/-- The buckets that the status is computed from. -/
def reportedState : RolloutState :=
  applyRebootTimeoutsInPlace owned timeout now
    (buildRolloutState lib owned names)

theorem allNodes_reportedState :
    (reportedState lib owned names timeout now).allNodes.Perm
      (names.filter fun name => (owned name).isSome) := by
  rw [reportedState, applyRebootTimeoutsInPlace_eq]
  exact (allNodes_applyRebootTimeouts owned timeout now _).trans
    (allNodes_buildRolloutState lib owned names)

theorem upToDate_reportedState :
    (reportedState lib owned names timeout now).upToDate =
      names.filter fun name => stateOf lib owned name = some .upToDate := by
  rw [reportedState, applyRebootTimeoutsInPlace_eq,
    ← bucket_buildRolloutState lib owned names .upToDate]
  unfold applyRebootTimeouts
  split <;> rfl

/-- The number of owned nodes. -/
theorem encard_owned
    (nodup : names.Nodup)
    (covered : ∀ name, owned name ≠ none → name ∈ names) :
    {name | owned name ≠ none}.encard =
      ((names.filter fun name => (owned name).isSome).length : ℕ∞) := by
  have same : {name | owned name ≠ none} =
      ((names.filter fun name => (owned name).isSome).toFinset :
        Set String) := by
    ext name
    simp only [Set.mem_ofPred_eq, List.coe_toFinset, List.mem_filter,
      Option.isSome_iff_ne_none]
    exact ⟨fun isOwned => ⟨covered name isOwned, isOwned⟩, fun found => found.2⟩
  rw [same, Set.encard_coe_eq_coe_finsetCard,
    List.toFinset_card_of_nodup (nodup.filter _)]

end Buckets

/-! ## The status -/

/-- The node reports no problem, and its booted image has the digest of its
desired image. -/
def RunsDesired (lib : ReferenceLibrary) (bn : BootcNode) : Prop :=
  isStatusConditionTrue bn.status.conditions nodeDegraded = false ∧
    ∃ digest, lib.digestOf bn.spec.desiredImage = some digest ∧
      infoMatchesDigest lib bn.status.booted digest = true

theorem runsDesired_iff
    {lib : ReferenceLibrary} {bn : BootcNode} :
    RunsDesired lib bn ↔ classifyNode lib bn = .ok .upToDate := by
  refine ⟨?_, runs_of_upToDate⟩
  rintro ⟨healthy, digest, isDigest, runs⟩
  have booted : bn.status.booted ≠ none := by
    intro absent
    rw [absent] at runs
    cases runs
  rw [classifyNode_of_comparable bn healthy booted isDigest, if_pos runs]

/-- What the status of a pool tells about its nodes. -/
structure StatusTruthful (lib : ReferenceLibrary)
    (owned : String → Option BootcNode) (rs : RolloutState)
    (pool pool' : BootcNodePool) : Prop where
  /-- no node is in two buckets, or twice in one -/
  once : rs.allNodes.Nodup
  /-- the buckets hold the owned nodes -/
  bucketed : ∀ name, name ∈ rs.allNodes ↔ owned name ≠ none
  nodeCount : {name | owned name ≠ none}.encard =
    (pool'.status.nodeCount.toNat : ℕ∞)
  total : pool'.status.nodeCount =
    pool'.status.updatedCount + pool'.status.updatingCount +
      pool'.status.degradedCount + rs.unclassified.length
  upToDate :
    isStatusConditionTrue pool'.status.conditions poolUpToDate = true ↔
      ∀ name bn, owned name = some bn → RunsDesired lib bn
  target : pool'.status.targetDigest = pool.status.targetDigest
  deployed : pool'.status.deployedDigest ≠ pool.status.deployedDigest →
    (∀ name bn, owned name = some bn → RunsDesired lib bn) ∧
      pool'.status.deployedDigest = pool.status.targetDigest
  updateAvailable : pool'.status.updateAvailable = true ↔
    pool'.status.targetDigest ≠ pool'.status.deployedDigest

theorem clampCount_of_le
    {n : Nat} (fits : n ≤ 2147483647) : clampCount n = n := by
  unfold clampCount
  omega

/-- The condition that `syncPoolStatus` sets. -/
theorem isUpToDate_syncPoolStatus
    (now : Time) (rs : RolloutState) (pool : BootcNodePool) :
    isStatusConditionTrue (syncPoolStatus now rs pool).status.conditions
        poolUpToDate = true ↔
      clampCount rs.nodeCount = clampCount rs.upToDate.length := by
  have type : ∀ counted : BootcNodePool,
      (upToDateUpdate counted rs).type = poolUpToDate := by
    intro counted
    unfold upToDateUpdate
    split_ifs <;> rfl
  unfold syncPoolStatus BootcNodePool.setCondition isStatusConditionTrue
  dsimp only
  rw [← type { pool with status := countedStatus pool rs }]
  rw [isStatusConditionPresentAndEqual_setStatusCondition,
    decide_eq_true_eq]
  have status : ∀ counted : BootcNodePool,
      (upToDateUpdate counted rs).status = .conditionTrue ↔
        counted.status.nodeCount = counted.status.updatedCount := by
    intro counted
    unfold upToDateUpdate
    split_ifs with paused different
    · simpa using paused.2
    · simpa using different
    · simpa using different
  rw [status]
  rfl

/-- The first bucket is as long as all of them together exactly when no owned
node is in another one. -/
theorem runsDesired_all_iff
    (lib : ReferenceLibrary) (owned : String → Option BootcNode)
    (names : List String) (timeout : Duration) (now : Time)
    (covered : ∀ name, owned name ≠ none → name ∈ names) :
    (∀ name bn, owned name = some bn → RunsDesired lib bn) ↔
      (reportedState lib owned names timeout now).nodeCount =
        (reportedState lib owned names timeout now).upToDate.length := by
  have ownedOnly : (reportedState lib owned names timeout now).upToDate =
      (names.filter fun name => (owned name).isSome).filter fun name =>
        stateOf lib owned name = some .upToDate := by
    rw [upToDate_reportedState, List.filter_filter]
    refine List.filter_congr fun name _ => ?_
    cases isOwned : owned name with
    | none => simp [stateOf, isOwned]
    | some bn => simp
  rw [← RolloutState.length_allNodes,
    (allNodes_reportedState lib owned names timeout now).length_eq, ownedOnly,
    eq_comm, List.length_filter_eq_length_iff]
  constructor
  · intro runs name member
    obtain ⟨bn, isOwned⟩ :=
      Option.isSome_iff_exists.mp (List.mem_filter.mp member).2
    exact decide_eq_true ((stateOf_eq_some lib owned).mpr
      ⟨bn, isOwned, runsDesired_iff.mp (runs name bn isOwned)⟩)
  · intro upToDate name bn isOwned
    have member : name ∈ names.filter fun name => (owned name).isSome :=
      List.mem_filter.mpr
        ⟨covered name (by rw [isOwned]; exact Option.some_ne_none bn),
          by rw [isOwned]; rfl⟩
    obtain ⟨found, isFound, classified⟩ := (stateOf_eq_some lib owned).mp
      (of_decide_eq_true (upToDate name member))
    cases isOwned.symm.trans isFound
    exact runsDesired_iff.mpr classified

/-- The pool status is true of the owned nodes. -/
theorem pool_status_truthful
    (lib : ReferenceLibrary) (owned : String → Option BootcNode)
    (names : List String) (timeout : Duration) (now : Time)
    (pool : BootcNodePool) (nodup : names.Nodup)
    (covered : ∀ name, owned name ≠ none → name ∈ names)
    (few : {name | owned name ≠ none}.encard ≤ ((2147483647 : ℕ) : ℕ∞)) :
    StatusTruthful lib owned (reportedState lib owned names timeout now) pool
      (syncPoolStatus now (reportedState lib owned names timeout now)
        pool) := by
  have perm := allNodes_reportedState lib owned names timeout now
  have runsAll := runsDesired_all_iff lib owned names timeout now covered
  generalize reportedState lib owned names timeout now = rs at perm runsAll ⊢
  have counted : {name | owned name ≠ none}.encard = (rs.nodeCount : ℕ∞) := by
    rw [encard_owned owned names nodup covered, ← perm.length_eq,
      rs.length_allNodes]
  have fits : rs.nodeCount ≤ 2147483647 := by
    rw [counted] at few
    exact_mod_cast few
  have nodeCount : clampCount rs.nodeCount = rs.nodeCount :=
    clampCount_of_le fits
  have parts : rs.nodeCount = rs.upToDate.length +
      (rs.pending.length + rs.staging.length + rs.staged.length +
        rs.rebooting.length) + rs.degraded.length +
      rs.unclassified.length := by
    unfold RolloutState.nodeCount
    omega
  have updatedCount : clampCount rs.upToDate.length = rs.upToDate.length :=
    clampCount_of_le (by omega)
  have complete : (∀ name bn, owned name = some bn → RunsDesired lib bn) ↔
      clampCount rs.nodeCount = clampCount rs.upToDate.length := by
    rw [runsAll, nodeCount, updatedCount]
    omega
  exact
    { once := perm.nodup_iff.mpr (nodup.filter _)
      bucketed := by
        intro name
        rw [perm.mem_iff, List.mem_filter, Option.isSome_iff_ne_none]
        exact ⟨fun found => found.2,
          fun isOwned => ⟨covered name isOwned, isOwned⟩⟩
      nodeCount := by
        rw [counted]
        change _ = ((clampCount rs.nodeCount).toNat : ℕ∞)
        rw [nodeCount, Int.toNat_natCast]
      total := by
        change clampCount rs.nodeCount = clampCount rs.upToDate.length +
          clampCount (rs.pending.length + rs.staging.length +
            rs.staged.length + rs.rebooting.length) +
          clampCount rs.degraded.length + rs.unclassified.length
        unfold clampCount
        omega
      upToDate := (isUpToDate_syncPoolStatus now rs pool).trans complete.symm
      target := rfl
      deployed := by
        intro changed
        change (if clampCount rs.nodeCount = clampCount rs.upToDate.length then
            pool.status.targetDigest
          else pool.status.deployedDigest) ≠ _ at changed
        split_ifs at changed with equal
        · exact ⟨complete.mpr equal, if_pos equal⟩
        · exact absurd rfl changed
      updateAvailable := decide_eq_true_iff }

/-- One node runs the target and one never came back. -/
def halfUpdated : Tables :=
  { bootcNodes := [("n1", stagedNode "os@b" "os@b"), ("n2", rebootingNode)] }

/-- One node is updated, the other over its timeout. -/
theorem pool_status_truthful_half_updated :
    (reportedState osLibrary halfUpdated.world.api.bootcNode
        ["n1", "n2"] 1 2).degraded = ["n2"] ∧
      StatusTruthful osLibrary halfUpdated.world.api.bootcNode
        (reportedState osLibrary halfUpdated.world.api.bootcNode
          ["n1", "n2"] 1 2)
        (osPool "os@b")
        (syncPoolStatus 2
          (reportedState osLibrary halfUpdated.world.api.bootcNode
            ["n1", "n2"] 1 2)
          (osPool "os@b")) := by
  have covered : ∀ name, halfUpdated.world.api.bootcNode name ≠ none →
      name ∈ ["n1", "n2"] :=
    fun name isOwned => mem_of_lookup_ne_none isOwned
  have few : {name | halfUpdated.world.api.bootcNode name ≠ none}.encard ≤
      ((2147483647 : ℕ) : ℕ∞) := by
    rw [encard_owned _ ["n1", "n2"] (by decide) covered]
    exact_mod_cast (List.length_filter_le _ _).trans (by decide)
  exact ⟨by decide +kernel,
    pool_status_truthful _ _ ["n1", "n2"] 1 2 _ (by decide) covered few⟩

end BootcOperator
