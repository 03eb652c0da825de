import BootcOperator.Lag.Run
import BootcOperator.Properties.SlotBudget

/-!
# The slot budget under informer lag

The count of occupied slots is as good as the BootcNode list it is made from.
While every list shows the slots that the API server holds, no write takes a
slot beyond the budget, however old the status of the listed BootcNodes and
the Nodes are.  A list from before the slot patch of an earlier pass lets a
second node take the same slot.
-/

namespace BootcOperator

open BootcNodePoolReconciler

/-- The slots of the pool do not become more, or are within the budget. -/
def SlotStep (pool : BootcNodePool) (m : Int) (before after : Moment) : Prop :=
  slottedNodes pool after.world.api ⊆ slottedNodes pool before.world.api ∨
    (slottedNodes pool after.world.api).encard ≤ (m.toNat : ℕ∞)

/-- Every version of the pool that a `Reconcile` reads resolves
`maxUnavailable` to `m` at most. -/
def KeepsBudget (r : BootcNodePoolReconciler) (pool : BootcNodePool) (m : Int)
    (s : LagRun) : LagAction → Prop
  | .reconcile env request _ _ =>
      (s.context r env request).pool.uid = pool.uid →
        ∀ nodeCount maxUnavail,
          r.resolveMaxUnavailable (s.context r env request).pool nodeCount =
            .ok maxUnavail → maxUnavail ≤ m
  | .others _ => True

section Effects

variable {c : LagContext} {budget : Option Int} {action : Action}
  {w w' : World}

/-- A BootcNode has one controller. -/
theorem uid_eq_of_isControlledBy
    {bn : BootcNode} {pool pool' : BootcNodePool}
    (controlled : bn.isControlledBy pool = true)
    (controlled' : bn.isControlledBy pool' = true) : pool.uid = pool'.uid := by
  unfold BootcNode.isControlledBy at controlled controlled'
  split at controlled
  · next ref isRef =>
      rw [isRef] at controlled'
      exact (of_decide_eq_true controlled).symm.trans
        (of_decide_eq_true controlled')
  · cases controlled

theorem slottedNodes_putBootcNode_of_other
    {name : String} {pool pool' : BootcNodePool} {bn : BootcNode}
    (controlled : bn.isControlledBy pool' = true)
    (other : pool'.uid ≠ pool.uid) :
    slottedNodes pool (w.putBootcNode name (some bn)).api ⊆
      slottedNodes pool w.api := by
  intro slottedName slotted
  by_cases same : slottedName = name
  · subst same
    obtain ⟨found, isFound, isControlled, _⟩ := slotted
    rw [w.putBootcNode_bootcNode, if_pos rfl, Option.some.injEq] at isFound
    subst isFound
    exact absurd (uid_eq_of_isControlledBy controlled isControlled) other
  · exact (mem_slottedNodes_putBootcNode_of_ne same).mp slotted

/-- An effect takes a slot only within the budget of its own pool. -/
theorem LagEffect.slottedNodes
    (effect : LagEffect c budget action w w') (pool : BootcNodePool) :
    slottedNodes pool w'.api ⊆ slottedNodes pool w.api ∨
      c.pool.uid = pool.uid ∧ ∃ maxUnavail, budget = some maxUnavail ∧
        (slottedNodes pool w'.api).encard ≤ (maxUnavail.toNat : ℕ∞) := by
  cases effect with
  | aside _ bootcNode _ =>
      exact .inl (slottedNodes_congr bootcNode).subset
  | patchNode _ _ _ => exact .inl subset_rfl
  | restoreNode _ _ => exact .inl subset_rfl
  | cordonNode _ _ _ => exact .inl subset_rfl
  | createBootcNode _ free =>
      refine .inl ?_
      rw [slottedNodes_putBootcNode_of_free pool w _ free]
      exact Set.sdiff_subset
  | patchBootcNode _ stored owners record bootcNode _ =>
      refine .inl ?_
      rw [slottedNodes_congr bootcNode, slottedNodes_putBootcNode_of_same pool
        stored (isControlledBy_congr owners pool) (congrArg Prod.fst record)]
  | freeSlot _ _ free _ =>
      refine .inl ?_
      rw [slottedNodes_putBootcNode_of_free pool w _ free]
      exact Set.sdiff_subset
  | deleteBootcNode =>
      refine .inl ?_
      rw [slottedNodes_putBootcNode_none pool w _]
      exact Set.sdiff_subset
  | @assignSlot _ name old new maxUnavail _ stored controlled _ isBudget room
      owners _ _ _ =>
      rw [← isControlledBy_congr owners] at controlled
      by_cases own : c.pool.uid = pool.uid
      · refine .inr ⟨own, maxUnavail, isBudget, ?_⟩
        have sameSlots : ∀ api, BootcOperator.slottedNodes pool api =
            BootcOperator.slottedNodes c.pool api := by
          intro api
          simp only [BootcOperator.slottedNodes, isControlledBy_of_uid own]
        rw [sameSlots]
        calc
          _ ≤ (insert name
                (BootcOperator.slottedNodes c.pool w.api)).encard :=
            Set.encard_le_encard
              (slottedNodes_putBootcNode_subset_insert c.pool w name _)
          _ ≤ (BootcOperator.slottedNodes c.pool w.api).encard + 1 :=
            Set.encard_insert_le _ _
          _ ≤ (maxUnavail.toNat : ℕ∞) := Order.add_one_le_of_lt room
      · exact .inl (slottedNodes_putBootcNode_of_other controlled own)

end Effects

section Runs

variable {r : BootcNodePoolReconciler} {pool : BootcNodePool} {m : Int}
  {s s' : LagRun} {action : LagAction}

/-- The other actors do not add slots. -/
theorem Concurrent.slottedNodes
    {w : World} (concurrent : Concurrent s w) (pool : BootcNodePool) :
    slottedNodes pool w.api ⊆ slottedNodes pool s.now.world.api := by
  rintro name ⟨bn, stored, controlled, slotted⟩
  obtain ⟨old, isOld, owners, record⟩ := concurrent.bootcNode name bn stored
  refine ⟨old, isOld, ?_, ?_⟩
  · rwa [← isControlledBy_congr owners]
  · exact (congrArg Prod.fst record).symm.trans slotted

theorem LagStepped.slotSteps
    (stepped : LagStepped r s action s')
    (keeps : KeepsBudget r pool m s action)
    (chain : s.moments.IsChain (SlotStep pool m)) :
    s'.moments.IsChain (SlotStep pool m) := by
  cases stepped with
  | reconcile _ effects =>
      refine isChain_moments chain fun before entry member => ?_
      obtain ⟨budget, resolved, effect⟩ := effects before entry member
      rcases effect.slottedNodes pool with
        fewer | ⟨own, maxUnavail, isBudget, within⟩
      · exact .inl fewer
      · obtain ⟨nodeCount, result⟩ := resolved maxUnavail isBudget
        have bounded := keeps own nodeCount maxUnavail result
        refine .inr (within.trans ?_)
        exact_mod_cast Int.toNat_le_toNat bounded
  | others concurrent =>
      rw [LagRun.moments, List.isChain_append]
      refine ⟨chain, .singleton _, fun before isBefore after isAfter => ?_⟩
      simp only [LagRun.others, LagRun.moments, List.getLast?_append_cons,
        List.getLast?_singleton, Option.mem_some_iff] at isBefore
      simp only [LagRun.others, List.head?_cons,
        Option.mem_some_iff] at isAfter
      subst isBefore isAfter
      exact .inl (concurrent.slottedNodes pool)

/-- A count within the budget stays there. -/
theorem encard_le_of_isChain
    {moments : List Moment} {first : Moment}
    (chain : (first :: moments).IsChain (SlotStep pool m))
    (start : (slottedNodes pool first.world.api).encard ≤ (m.toNat : ℕ∞)) :
    ∀ moment ∈ first :: moments,
      (slottedNodes pool moment.world.api).encard ≤ (m.toNat : ℕ∞) := by
  induction moments generalizing first with
  | nil =>
      intro moment member
      exact List.mem_singleton.mp member ▸ start
  | cons second rest ih =>
      obtain ⟨step, later⟩ := List.isChain_cons_cons.mp chain
      have next : (slottedNodes pool second.world.api).encard ≤
          (m.toNat : ℕ∞) :=
        step.elim (fun fewer => (Set.encard_le_encard fewer).trans start) id
      intro moment member
      rcases List.mem_cons.mp member with rfl | isLater
      · exact start
      · exact ih later next moment isLater

theorem LagStepped.moments_prefix
    (stepped : LagStepped r s action s') : s.moments <+: s'.moments := by
  cases stepped with
  | @reconcile _ _ _ _ log _ _ =>
      exact ⟨_, (s.moments_append_path log).symm⟩
  | others _ => exact List.prefix_append _ _

/-- What a run in which every list shows the slots keeps. -/
structure Budgets (pool : BootcNodePool) (m : Int) (w : World)
    (s : LagRun) : Prop where
  versioned : s.Versioned
  chain : s.moments.IsChain (SlotStep pool m)
  begins : [⟨w, fun _ => none⟩] <+: s.moments

/-- While the BootcNode lists show the slots that the API server holds, every
write leaves the pool with no new slot or within the budget; a count that
starts within the budget stays there. -/
theorem slot_budget_under_lag
    (r : BootcNodePoolReconciler) (pool : BootcNodePool) (m : Int)
    {w : World} {actions : List LagAction} {s : LagRun}
    (path : (lagMachine r).Path
      (fun s action => WatchCaches s action ∧ KeepsBudget r pool m s action ∧
        ListsSlots r s action) (.start w) actions s) :
    s.moments.IsChain (SlotStep pool m) ∧
      ((slottedNodes pool w.api).encard ≤ (m.toNat : ℕ∞) →
        ∀ moment ∈ s.moments,
          (slottedNodes pool moment.world.api).encard ≤ (m.toNat : ℕ∞)) := by
  have budgets : Budgets pool m w s := by
    refine path.invariant (Budgets pool m w) ?_
      ⟨LagRun.versioned_start w, .singleton _, List.prefix_rfl⟩
    intro s action s' holds meets stepped
    obtain ⟨caches, keeps, lists⟩ := meets
    have isStep := lagStepped_of_step holds.versioned caches lists stepped
    exact ⟨isStep.versioned holds.versioned,
      isStep.slotSteps keeps holds.chain,
      holds.begins.trans isStep.moments_prefix⟩
  refine ⟨budgets.chain, fun start => ?_⟩
  obtain ⟨rest, isRest⟩ := budgets.begins
  have chain := budgets.chain
  rw [← isRest, List.singleton_append] at chain ⊢
  exact encard_le_of_isChain chain start

end Runs

theorem slottedNodes_eq_empty
    {w : World} {names : List String} {pool : BootcNodePool}
    (within : w.Within names)
    (free : ∀ name ∈ names, w.holdsSlot name = false) :
    slottedNodes pool w.api = ∅ := by
  refine Set.eq_empty_of_forall_notMem ?_
  rintro name ⟨bn, stored, _, slotted⟩
  have listed := within.bootcNode name (by simp [stored])
  simpa [World.holdsSlot, stored, slotted] using free name listed

theorem twoStaged_within : twoStaged.world.Within ["n1", "n2"] := by
  have within := twoStaged.within_names
  rwa [show twoStaged.names = ["n1", "n2"] by decide] at within

/-- One node of two gets the slot when the list is fresh. -/
def freshRun : LagRun :=
  (LagRun.start twoStaged.world).reconciled osReconciler
    (.listing ["n1", "n2"] twoStaged.world.api.bootcNode) "workers" 0 0

theorem keepsBudget_osPool
    {s : LagRun} {env : Env} {bootcNodeCache nodeCache : Nat}
    (rollout : (s.context osReconciler env "workers").pool.spec.rollout =
      none) :
    KeepsBudget osReconciler (osPool "os@b") 1 s
      (.reconcile env "workers" bootcNodeCache nodeCache) := by
  intro _ nodeCount maxUnavail resolved
  simp only [resolveMaxUnavailable, isPaused, rollout] at resolved
  simp at resolved
  omega

theorem freshRun_cached :
    Cached (.start twoStaged.world)
      (.listing ["n1", "n2"] twoStaged.world.api.bootcNode) 0 0 :=
  cached_listing ⟨_, rfl, rfl⟩ fun name present =>
    present.elim (twoStaged_within.bootcNode name)
      (twoStaged_within.node name)

/-- With fresh lists, one of two nodes gets the slot. -/
theorem slot_budget_under_lag_fresh :
    (freshRun.now.world.api.bootcNode "n1").map BootcNode.inRebootSlot =
        some true ∧
      (slottedNodes (osPool "os@b") freshRun.now.world.api).encard ≤
        ((1 : ℕ) : ℕ∞) := by
  refine ⟨by decide +kernel, ?_⟩
  have path : (lagMachine osReconciler).Path
      (fun s action => WatchCaches s action ∧
        KeepsBudget osReconciler (osPool "os@b") 1 s action ∧
          ListsSlots osReconciler s action)
      (.start twoStaged.world)
      [.reconcile (.listing ["n1", "n2"] twoStaged.world.api.bootcNode)
        "workers" 0 0] freshRun := by
    exact .cons ⟨freshRun_cached, keepsBudget_osPool rfl, fun _ => rfl⟩
      (lagMachine_reconcile _ _ _ _ (by decide)) (.nil _)
  have start : (slottedNodes (osPool "os@b") twoStaged.world.api).encard ≤
      ((1 : Int).toNat : ℕ∞) := by
    rw [slottedNodes_eq_empty twoStaged_within (by decide)]
    simp
  exact (slot_budget_under_lag osReconciler (osPool "os@b") 1 path).2 start
    freshRun.now (by simp [LagRun.moments])

/-! ## A list that lags behind a slot -/

/-- The node `n2` is staged and `n1` is not yet. -/
def oneStaged : Tables :=
  { twoStaged with
    bootcNodes :=
      [("n1",
          { stagedNode "os@b" "os@a" with
            status :=
              { (stagedNode "os@b" "os@a").status with conditions := [] } }),
        ("n2", stagedNode "os@b" "os@a")] }

/-- The run after the daemon of `n1` has reported the staged image. -/
def reportedRun : LagRun :=
  (LagRun.start oneStaged.world).others twoStaged.world

/-- A `Reconcile` from before the report gives the slot to `n2`. -/
def bookedRun : LagRun :=
  reportedRun.reconciled osReconciler
    (.listing ["n1", "n2"] oneStaged.world.api.bootcNode) "workers" 0 0

/-- A `Reconcile` from before that slot gives one to `n1`. -/
def overbookedRun : LagRun :=
  bookedRun.reconciled osReconciler
    (.listing ["n1", "n2"] twoStaged.world.api.bootcNode) "workers" 1 0

/-- The daemon reports, and two reconciles follow with lists that lag. -/
def overbookingActions : List LagAction :=
  [.others twoStaged.world,
    .reconcile (.listing ["n1", "n2"] oneStaged.world.api.bootcNode)
      "workers" 0 0,
    .reconcile (.listing ["n1", "n2"] twoStaged.world.api.bootcNode)
      "workers" 1 0]

theorem oneStaged_within : oneStaged.world.Within ["n1", "n2"] := by
  have within := oneStaged.within_names
  rwa [show oneStaged.names = ["n1", "n2"] by decide] at within

theorem concurrent_report :
    Concurrent (.start oneStaged.world) twoStaged.world where
  bootcNode name bn stored := by
    have listed : name = "n1" ∨ name = "n2" := by
      simpa using twoStaged_within.bootcNode name (by simp [stored])
    rcases listed with rfl | rfl <;> cases stored <;> exact ⟨_, rfl, rfl, rfl⟩
  node name node stored := .inl stored

theorem reportedRun_showsSlots :
    (reportedRun.context osReconciler
      (.listing ["n1", "n2"] oneStaged.world.api.bootcNode)
      "workers").ShowsSlots := by
  intro name
  by_cases listed : name ∈ ["n1", "n2"]
  · rcases List.mem_pair.mp listed with rfl | rfl <;> rfl
  · have absent : oneStaged.world.api.bootcNode name = none :=
      not_not.mp fun present =>
        listed (oneStaged_within.bootcNode name present)
    have absent' : twoStaged.world.api.bootcNode name = none :=
      not_not.mp fun present =>
        listed (twoStaged_within.bootcNode name present)
    change (oneStaged.world.api.bootcNode name).map _ =
      (twoStaged.world.api.bootcNode name).map _
    rw [absent, absent']

theorem reportedRun_cached :
    Cached reportedRun
      (.listing ["n1", "n2"] oneStaged.world.api.bootcNode) 0 0 :=
  cached_listing ⟨_, rfl, rfl⟩ fun name present =>
    present.elim (oneStaged_within.bootcNode name)
      (twoStaged_within.node name)

theorem reportedRun_versioned : reportedRun.Versioned :=
  (LagStepped.others (r := osReconciler) concurrent_report).versioned
    (LagRun.versioned_start oneStaged.world)

theorem bookedRun_wrote :
    (osReconciler.reconcile
      (.listing ["n1", "n2"] oneStaged.world.api.bootcNode) "workers"
      (.start reportedRun.now.world)).2.log ≠ [] := by
  have wrote : (osReconciler.reconcile
      (.listing ["n1", "n2"] oneStaged.world.api.bootcNode) "workers"
      (.start reportedRun.now.world)).2.log.isEmpty = false := by
    decide +kernel
  exact List.isEmpty_eq_false_iff.mp wrote

theorem overbookedRun_slots :
    ∀ name ∈ ["n1", "n2"],
      (overbookedRun.now.world.api.bootcNode name).map (fun bn =>
        (bn.isControlledBy (osPool "os@b"), bn.inRebootSlot)) =
          some (true, true) := by
  decide +kernel

/-- With `maxUnavailable` 1 and no slot taken, a second `Reconcile` whose list
does not show the slot patch of the first lets two nodes hold a slot. -/
theorem lagging_list_overbooks :
    slottedNodes (osPool "os@b") oneStaged.world.api = ∅ ∧
      ∃ actions s,
        (lagMachine osReconciler).Path
          (fun s action => WatchCaches s action ∧
            KeepsBudget osReconciler (osPool "os@b") 1 s action)
          (.start oneStaged.world) actions s ∧
        1 < (slottedNodes (osPool "os@b") s.now.world.api).encard := by
  refine ⟨slottedNodes_eq_empty oneStaged_within (by decide),
    overbookingActions, overbookedRun, .cons ⟨concurrent_report, trivial⟩ rfl
      (.cons ⟨?_, ?_⟩ (lagMachine_reconcile _ reportedRun _ _ (by decide))
        (.cons ⟨?_, ?_⟩ (lagMachine_reconcile _ bookedRun _ _ (by decide))
          (.nil _))), ?_⟩
  · exact reportedRun_cached
  · exact keepsBudget_osPool rfl
  · refine cached_listing ⟨_, getElem?_moments_reconciled rfl ?_, rfl⟩
      fun name present => ?_
    · exact bookedRun_wrote
    · exact present.elim (twoStaged_within.bootcNode name)
        (node_of_reconciled reportedRun_versioned reportedRun_cached
          reportedRun_showsSlots twoStaged_within.node name)
  · exact keepsBudget_osPool (by decide +kernel)
  · have contained : {"n1", "n2"} ⊆
        slottedNodes (osPool "os@b") overbookedRun.now.world.api := by
      intro name member
      obtain ⟨bn, stored, marks⟩ := Option.map_eq_some_iff.mp
        (overbookedRun_slots name (by simpa using member))
      exact ⟨bn, stored, congrArg Prod.fst marks, congrArg Prod.snd marks⟩
    refine lt_of_lt_of_le ?_ (Set.encard_le_encard contained)
    rw [Set.encard_pair (by decide)]
    exact_mod_cast one_lt_two

end BootcOperator
