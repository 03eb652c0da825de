import BootcOperator.Effects.Tracking

/-!
# Reboot slots

How the writes to a BootcNode change the set of nodes that hold a slot, and
what `buildRolloutState` finds out about it.
-/

namespace BootcOperator

section Slotted

variable {pool : BootcNodePool} {w : World} {name : String}

theorem mem_slottedNodes {api : Cluster} :
    name ∈ slottedNodes pool api ↔
      ∃ bn, api.bootcNode name = some bn ∧
        bn.isControlledBy pool = true ∧ bn.inRebootSlot = true :=
  Iff.rfl

theorem mem_slottedNodes_putBootcNode_of_ne
    {other : String} {bn : Option BootcNode} (different : other ≠ name) :
    other ∈ slottedNodes pool (w.putBootcNode name bn).api ↔
      other ∈ slottedNodes pool w.api := by
  simp [mem_slottedNodes, World.putBootcNode, different]

variable (pool w name) in
/-- A write to one BootcNode adds at most one slot. -/
theorem slottedNodes_putBootcNode_subset_insert (bn : Option BootcNode) :
    slottedNodes pool (w.putBootcNode name bn).api ⊆
      insert name (slottedNodes pool w.api) := by
  intro other slotted
  by_cases same : other = name
  · exact .inl same
  · exact .inr ((mem_slottedNodes_putBootcNode_of_ne same).mp slotted)

variable (pool w name) in
/-- A BootcNode without a slot takes its node out of the set. -/
theorem slottedNodes_putBootcNode_of_free
    {bn : BootcNode} (free : bn.inRebootSlot = false) :
    slottedNodes pool (w.putBootcNode name (some bn)).api =
      slottedNodes pool w.api \ {name} := by
  ext other
  by_cases same : other = name
  · subst same
    simp [mem_slottedNodes, World.putBootcNode, free]
  · simp [mem_slottedNodes_putBootcNode_of_ne same, same]

variable (pool w name) in
theorem slottedNodes_putBootcNode_none :
    slottedNodes pool (w.putBootcNode name none).api =
      slottedNodes pool w.api \ {name} := by
  ext other
  by_cases same : other = name
  · subst same
    simp [mem_slottedNodes, World.putBootcNode]
  · simp [mem_slottedNodes_putBootcNode_of_ne same, same]

variable (pool) in
theorem slottedNodes_putBootcNode_of_same
    {old new : BootcNode} (stored : w.api.bootcNode name = some old)
    (controlled : new.isControlledBy pool = old.isControlledBy pool)
    (slot : new.inRebootSlot = old.inRebootSlot) :
    slottedNodes pool (w.putBootcNode name (some new)).api =
      slottedNodes pool w.api := by
  ext other
  by_cases same : other = name
  · subst same
    simp [mem_slottedNodes, World.putBootcNode, stored, controlled, slot]
  · exact mem_slottedNodes_putBootcNode_of_ne same

end Slotted

theorem encard_sdiff_singleton_le
    {slots : Set String} {name : String} (member : name ∈ slots) {n : Nat}
    (atMost : slots.encard ≤ n) :
    ∃ k, n = k + 1 ∧ (slots \ {name}).encard ≤ (k : ℕ∞) := by
  have fewer := Set.encard_sdiff_singleton_add_one member
  rw [← fewer] at atMost
  cases n with
  | zero => simp at atMost
  | succ k =>
      refine ⟨k, rfl, ?_⟩
      rw [Nat.cast_add, Nat.cast_one] at atMost
      exact (ENat.add_le_add_iff_right ENat.one_ne_top).mp atMost

theorem newBootcNode_inRebootSlot
    (r : BootcNodePoolReconciler) (pool : BootcNodePool) (node : Node) :
    (r.newBootcNode pool node).inRebootSlot = false := by
  unfold BootcNodePoolReconciler.newBootcNode BootcNode.inRebootSlot
  dsimp only
  split <;> simp [Annotations.has, Annotations.empty]

/-! ## What the classification finds -/

/-- How an owned node is classified. -/
def stateOf (lib : ReferenceLibrary) (owned : String → Option BootcNode)
    (name : String) : Option NodeState :=
  (owned name).bind fun bn => (classifyNode lib bn).toOption

/-- The bucket of a state. -/
def RolloutState.bucket (rs : RolloutState) : NodeState → List String
  | .upToDate => rs.upToDate
  | .pending => rs.pending
  | .staging => rs.staging
  | .staged => rs.staged
  | .rebooting => rs.rebooting
  | .degraded => rs.degraded

section Buckets

variable (lib : ReferenceLibrary) (owned : String → Option BootcNode)
  (names : List String) (state : NodeState)

theorem stateOf_eq_some {name : String} {state : NodeState} :
    stateOf lib owned name = some state ↔
      ∃ bn, owned name = some bn ∧ classifyNode lib bn = .ok state := by
  unfold stateOf
  rw [Option.bind_eq_some_iff]
  refine exists_congr fun bn => and_congr_right fun _ => ?_
  cases classifyNode lib bn <;> simp [Except.toOption]

theorem RolloutState.bucket_add
    (rs : RolloutState) (name : String) (result : Except String NodeState) :
    (rs.add name result).bucket state =
      rs.bucket state ++ if result.toOption = some state then [name] else [] := by
  cases result with
  | error err => cases state <;> simp [add, bucket, Except.toOption]
  | ok found =>
      cases found <;> cases state <;> simp [add, bucket, Except.toOption]

theorem bucket_buildRolloutState :
    (buildRolloutState lib owned names).bucket state =
      names.filter fun name => stateOf lib owned name = some state := by
  induction names using List.reverseRecOn with
  | nil => cases state <;> rfl
  | append_singleton names name ih =>
      unfold buildRolloutState at *
      rw [List.foldl_append, List.filter_append, ← ih]
      generalize names.foldl (classifyInto lib owned) {} = rs
      simp only [List.foldl_cons, List.foldl_nil, classifyInto]
      cases isOwned : owned name with
      | none => simp [stateOf, isOwned]
      | some bn =>
          have counted : RolloutState.bucket
              (if bn.inRebootSlot then
                { rs with occupiedSlots := rs.occupiedSlots + 1 }
              else rs) state = rs.bucket state := by
            split <;> cases state <;> rfl
          simp only [RolloutState.bucket_add, counted]
          congr 1
          simp [stateOf, isOwned, List.filter_cons]

end Buckets

/-- The facts about the buckets that the rollout relies on. -/
structure Sorted (lib : ReferenceLibrary)
    (owned : String → Option BootcNode) (names : List String)
    (rs : RolloutState) : Prop where
  upToDate : ∀ name ∈ rs.upToDate, ∀ bn, owned name = some bn →
    classifyNode lib bn = .ok .upToDate
  staged : ∀ name ∈ rs.staged, ∀ bn, owned name = some bn →
    classifyNode lib bn = .ok .staged
  occupied : rs.occupiedSlots =
    (names.filter (slottedWith owned fun _ => true)).length

section Sorted

variable {lib : ReferenceLibrary} {owned : String → Option BootcNode}
  {names : List String} {rs : RolloutState} {name : String}

theorem RolloutState.add_occupiedSlots
    (rs : RolloutState) (name : String) (result : Except String NodeState) :
    (rs.add name result).occupiedSlots = rs.occupiedSlots := by
  cases result with
  | error err => rfl
  | ok state => cases state <;> rfl

variable (lib owned names) in
theorem buildRolloutState_occupiedSlots :
    (buildRolloutState lib owned names).occupiedSlots =
      (names.filter (slottedWith owned fun _ => true)).length := by
  induction names using List.reverseRecOn with
  | nil => rfl
  | append_singleton names name ih =>
      unfold buildRolloutState at *
      rw [List.foldl_append, List.foldl_cons, List.foldl_nil, classifyInto]
      cases isOwned : owned name with
      | none =>
          simp [ih, List.filter_append, slottedWith, isOwned]
      | some bn =>
          dsimp only
          rw [RolloutState.add_occupiedSlots]
          cases slotted : bn.inRebootSlot <;>
            simp [ih, List.filter_append, slottedWith,
              isOwned, slotted]

theorem classified_of_mem_bucket
    (state : NodeState) {bn : BootcNode}
    (member : name ∈ (buildRolloutState lib owned names).bucket state)
    (isOwned : owned name = some bn) :
    classifyNode lib bn = .ok state := by
  rw [bucket_buildRolloutState, List.mem_filter, decide_eq_true_eq,
    stateOf_eq_some] at member
  obtain ⟨found, isFound, classified⟩ := member.2
  rw [isOwned, Option.some.injEq] at isFound
  exact isFound ▸ classified

variable (lib owned names) in
theorem sorted_buildRolloutState :
    Sorted lib owned names (buildRolloutState lib owned names) where
  upToDate _ member _ := classified_of_mem_bucket .upToDate member
  staged _ member _ := classified_of_mem_bucket .staged member
  occupied := buildRolloutState_occupiedSlots lib owned names

theorem not_mem_upToDate_of_mem_staged
    (member : name ∈ (buildRolloutState lib owned names).staged) :
    name ∉ (buildRolloutState lib owned names).upToDate := by
  have staged := bucket_buildRolloutState lib owned names .staged
  have upToDate := bucket_buildRolloutState lib owned names .upToDate
  simp only [RolloutState.bucket] at staged upToDate
  rw [staged, List.mem_filter, decide_eq_true_eq] at member
  rw [upToDate, List.mem_filter, decide_eq_true_eq, member.2]
  simp

/-- The slots that the loop over `names` has counted. -/
theorem encard_le_of_counted
    {slots : Set String}
    (counted : ∀ name ∈ slots, name ∈ names ∧
      slottedWith owned (fun _ => true) name = true) :
    slots.encard ≤
      ((names.filter (slottedWith owned fun _ => true)).length : ℕ∞) := by
  have contained : slots ⊆
      (names.filter (slottedWith owned fun _ => true)).toFinset := by
    intro name member
    simpa using counted name member
  refine (Set.encard_le_encard contained).trans ?_
  rw [Set.encard_coe_eq_coe_finsetCard]
  exact_mod_cast List.toFinset_card_le _

theorem Sorted.applyRebootTimeouts
    (sorted : Sorted lib owned names rs) (timeout : Duration) (now : Time) :
    Sorted lib owned names (applyRebootTimeouts owned timeout now rs) := by
  unfold BootcOperator.applyRebootTimeouts
  split
  · exact ⟨sorted.upToDate, sorted.staged, sorted.occupied⟩
  · exact ⟨sorted.upToDate, sorted.staged, sorted.occupied⟩

end Sorted

end BootcOperator
