import BootcOperator.Effects.BootcNodes
import BootcOperator.Effects.Quiet

/-!
# What a pass finds out about its nodes

`driveRollout` classifies the owned nodes once and then works on their slots.
What it has found is still true when it is done: none of its writes changes
the image or the status of a BootcNode, and after the search for unhealthy
slots only staged nodes get one.
-/

namespace BootcOperator

open Program

variable {name : String}

section Buckets

variable (lib : ReferenceLibrary) (owned : String → Option BootcNode)
  (names : List String)

theorem classifyInto_rebootTimedOutNodes
    (rs : RolloutState) (name : String) :
    (classifyInto lib owned rs name).rebootTimedOutNodes =
      rs.rebootTimedOutNodes := by
  unfold classifyInto
  cases owned name with
  | none => rfl
  | some bn =>
      have added (rs : RolloutState) (result : Except String NodeState) :
          (rs.add name result).rebootTimedOutNodes =
            rs.rebootTimedOutNodes := by
        cases result with
        | error err => rfl
        | ok state => cases state <;> rfl
      dsimp only
      rw [added]
      split <;> rfl

theorem buildRolloutState_rebootTimedOutNodes :
    (buildRolloutState lib owned names).rebootTimedOutNodes = [] := by
  induction names using List.reverseRecOn with
  | nil => rfl
  | append_singleton names name ih =>
      unfold buildRolloutState at *
      rw [List.foldl_append]
      exact (classifyInto_rebootTimedOutNodes lib owned _ name).trans
        ih

variable (timeout : Duration) (now : Time)

/-- The rebooting nodes over their timeout. -/
def timedOutNodes : List String :=
  (names.filter fun name => stateOf lib owned name = some .rebooting).filter
    (isRebootTimedOut owned timeout now)

theorem isRebootTimedOut_of_disabled
    {timeout : Duration} (disabled : timeout ≤ 0) (name : String) :
    isRebootTimedOut owned timeout now name = false := by
  unfold isRebootTimedOut rebootTimedOut
  cases owned name <;> simp [disabled]

theorem applyRebootTimeouts_buckets :
    let rs := applyRebootTimeouts owned timeout now
      (buildRolloutState lib owned names)
    rs.upToDate =
        names.filter (fun name => stateOf lib owned name = some .upToDate) ∧
      rs.degraded =
        names.filter (fun name => stateOf lib owned name = some .degraded) ++
          timedOutNodes lib owned names timeout now ∧
      rs.rebootTimedOutNodes = timedOutNodes lib owned names timeout now := by
  have upToDate := bucket_buildRolloutState lib owned names .upToDate
  have degraded := bucket_buildRolloutState lib owned names .degraded
  have rebooting := bucket_buildRolloutState lib owned names .rebooting
  have unreported := buildRolloutState_rebootTimedOutNodes lib owned names
  simp only [RolloutState.bucket] at upToDate degraded rebooting
  unfold applyRebootTimeouts timedOutNodes
  rw [← rebooting, ← degraded, ← upToDate]
  split
  · next disabled =>
      have none_ : (buildRolloutState lib owned names).rebooting.filter
          (isRebootTimedOut owned timeout now) = [] := by
        rw [List.filter_eq_nil_iff]
        intro name _
        simp [isRebootTimedOut_of_disabled owned now disabled]
      simp [none_, unreported]
  · simp [unreported]

end Buckets

/-! ## Unhealthy nodes -/

/-- The node counts for the reason `NodeDegraded`. -/
def IsDegraded (lib : ReferenceLibrary) (timeout : Duration) (now : Time)
    (bn : BootcNode) : Prop :=
  classifyNode lib bn = .ok .degraded ∨
    (classifyNode lib bn = .ok .rebooting ∧
      rebootTimedOut bn timeout now = true)

/-- A node that should not hold a slot any more: it is degraded with nothing
booted or with the target booted, it is up to date and still not ready, or its
reboot has timed out. -/
def IsUnhealthy (lib : ReferenceLibrary) (timeout : Duration) (now : Time)
    (targetDigest : String) (bn : BootcNode) : Prop :=
  (classifyNode lib bn = .ok .degraded ∧
      (bn.status.booted = none ∨
        infoMatchesDigest lib bn.status.booted targetDigest = true)) ∨
    classifyNode lib bn = .ok .upToDate ∨
    (classifyNode lib bn = .ok .rebooting ∧
      rebootTimedOut bn timeout now = true)

/-- The rebooting nodes report a booted image that is not the target. -/
def RebootsFromOther (lib : ReferenceLibrary) (targetDigest : String)
    (owned : String → Option BootcNode) : Prop :=
  ∀ name bn, owned name = some bn → classifyNode lib bn = .ok .rebooting →
    bn.status.booted ≠ none ∧
      infoMatchesDigest lib bn.status.booted targetDigest = false

section Unhealthy

variable {lib : ReferenceLibrary} {owned : String → Option BootcNode}
  {names : List String} {timeout : Duration} {now : Time}
  {targetDigest : String}

theorem mem_timedOutNodes :
    name ∈ timedOutNodes lib owned names timeout now ↔
      name ∈ names ∧ ∃ bn, owned name = some bn ∧
        classifyNode lib bn = .ok .rebooting ∧
        rebootTimedOut bn timeout now = true := by
  simp only [timedOutNodes, List.mem_filter, decide_eq_true_eq,
    stateOf_eq_some, and_assoc]
  refine and_congr_right fun _ => ?_
  constructor
  · rintro ⟨⟨bn, isOwned, rebooting⟩, timedOut⟩
    simp only [isRebootTimedOut, isOwned] at timedOut
    exact ⟨bn, isOwned, rebooting, timedOut⟩
  · rintro ⟨bn, isOwned, rebooting, timedOut⟩
    exact ⟨⟨bn, isOwned, rebooting⟩, by simp [isRebootTimedOut, isOwned, timedOut]⟩

/-- The degraded bucket is empty unless some owned node is degraded. -/
theorem degraded_ne_nil_iff
    (covered : ∀ name, owned name ≠ none → name ∈ names) :
    names.filter (fun name => stateOf lib owned name = some .degraded) ++
        timedOutNodes lib owned names timeout now ≠ [] ↔
      ∃ name bn, owned name = some bn ∧ IsDegraded lib timeout now bn := by
  rw [Ne, List.eq_nil_iff_forall_not_mem, not_forall]
  simp only [not_not, List.mem_append, List.mem_filter, decide_eq_true_eq,
    stateOf_eq_some, mem_timedOutNodes]
  constructor
  · rintro ⟨name, ⟨_, bn, isOwned, degraded⟩ | ⟨_, bn, isOwned, timedOut⟩⟩
    · exact ⟨name, bn, isOwned, .inl degraded⟩
    · exact ⟨name, bn, isOwned, .inr timedOut⟩
  · rintro ⟨name, bn, isOwned, degraded | timedOut⟩
    · have visited := covered name (by simp [isOwned])
      exact ⟨name, .inl ⟨visited, bn, isOwned, degraded⟩⟩
    · have visited := covered name (by simp [isOwned])
      exact ⟨name, .inr ⟨visited, bn, isOwned, timedOut⟩⟩

variable (lib owned names timeout now targetDigest) in
/-- The nodes that `findUnhealthySlots` finds, by bucket. -/
def unhealthyNames : List String :=
  (names.filter fun name => stateOf lib owned name = some .degraded).filter
      (slottedWith owned fun bn =>
        bn.status.booted.isNone ||
          infoMatchesDigest lib bn.status.booted targetDigest) ++
    (names.filter fun name => stateOf lib owned name = some .upToDate).filter
      (slottedWith owned fun _ => true) ++
    (timedOutNodes lib owned names timeout now).filter
      (slottedWith owned fun _ => true)

theorem slottedWith_eq_true {test : BootcNode → Bool} :
    slottedWith owned test name = true ↔
      ∃ bn, owned name = some bn ∧ bn.inRebootSlot = true ∧
        test bn = true := by
  unfold slottedWith
  cases owned name <;> simp

theorem mem_unhealthyNames :
    name ∈ unhealthyNames lib owned names timeout now targetDigest ↔
      name ∈ names ∧ ∃ bn, owned name = some bn ∧ bn.inRebootSlot = true ∧
        IsUnhealthy lib timeout now targetDigest bn := by
  simp only [unhealthyNames, List.mem_append, List.mem_filter,
    decide_eq_true_eq, stateOf_eq_some, mem_timedOutNodes,
    slottedWith_eq_true, Bool.or_eq_true, Option.isNone_iff_eq_none,
    and_true]
  constructor
  · rintro ((⟨⟨visited, bn, isOwned, state⟩, bn', isOwned', slotted, test⟩ |
      ⟨⟨visited, bn, isOwned, state⟩, bn', isOwned', slotted⟩) |
      ⟨⟨visited, bn, isOwned, state⟩, bn', isOwned', slotted⟩) <;>
      obtain rfl := Option.some.inj (isOwned.symm.trans isOwned')
    · exact ⟨visited, bn, isOwned, slotted, .inl ⟨state, test⟩⟩
    · exact ⟨visited, bn, isOwned, slotted, .inr (.inl state)⟩
    · exact ⟨visited, bn, isOwned, slotted, .inr (.inr state)⟩
  · rintro ⟨visited, bn, isOwned, slotted, ⟨state, test⟩ | state | state⟩
    · exact .inl (.inl ⟨⟨visited, bn, isOwned, state⟩, bn, isOwned, slotted,
        test⟩)
    · exact .inl (.inr ⟨⟨visited, bn, isOwned, state⟩, bn, isOwned, slotted⟩)
    · exact .inr ⟨⟨visited, bn, isOwned, state⟩, bn, isOwned, slotted⟩

theorem nodup_unhealthyNames (nodup : names.Nodup) :
    (unhealthyNames lib owned names timeout now targetDigest).Nodup := by
  have state {name : String} {state : NodeState}
      {test : String → Bool}
      (member : name ∈ (names.filter fun name =>
        stateOf lib owned name = some state).filter test) :
      stateOf lib owned name = some state := by
    simpa using (List.mem_filter.mp (List.mem_filter.mp member).1).2
  have timedOut {name : String} {test : String → Bool}
      (member : name ∈
        (timedOutNodes lib owned names timeout now).filter test) :
      stateOf lib owned name = some .rebooting :=
    state (List.mem_filter.mp member).1
  refine List.Nodup.append (List.Nodup.append ?_ ?_ ?_) ?_ ?_
  · exact (nodup.filter _).filter _
  · exact (nodup.filter _).filter _
  · intro name degraded upToDate
    exact absurd ((state degraded).symm.trans (state upToDate)) (by simp)
  · exact ((nodup.filter _).filter _).filter _
  · intro name other rebooting
    rcases List.mem_append.mp other with degraded | upToDate
    · exact absurd ((state degraded).symm.trans (timedOut rebooting)) (by simp)
    · exact absurd ((state upToDate).symm.trans (timedOut rebooting)) (by simp)

/-- A node that has timed out is not listed as degraded as well. -/
theorem findUnhealthySlots_names
    {rs : RolloutState}
    (upToDate : rs.upToDate =
      names.filter fun name => stateOf lib owned name = some .upToDate)
    (degraded : rs.degraded =
      names.filter (fun name => stateOf lib owned name = some .degraded) ++
        timedOutNodes lib owned names timeout now)
    (timedOut : rs.rebootTimedOutNodes =
      timedOutNodes lib owned names timeout now)
    (other : RebootsFromOther lib targetDigest owned) :
    (findUnhealthySlots lib owned rs targetDigest).map (·.name) =
      unhealthyNames lib owned names timeout now targetDigest := by
  have once : (timedOutNodes lib owned names timeout now).filter
      (slottedWith owned fun bn =>
        bn.status.booted.isNone ||
          infoMatchesDigest lib bn.status.booted targetDigest) = [] := by
    rw [List.filter_eq_nil_iff]
    intro name member
    obtain ⟨_, bn, isOwned, rebooting, _⟩ := mem_timedOutNodes.mp member
    obtain ⟨booted, different⟩ := other name bn isOwned rebooting
    simp [slottedWith, isOwned, booted, different]
  simp only [findUnhealthySlots, unhealthyNames, upToDate, degraded, timedOut,
    List.filter_append, once, List.append_nil, List.map_append, List.map_map,
    Function.comp_def, List.map_id']

/-- The nodes with an unhealthy slot are counted once each. -/
theorem two_le_findUnhealthySlots_iff
    {rs : RolloutState}
    (listed : (findUnhealthySlots lib owned rs targetDigest).map (·.name) =
      unhealthyNames lib owned names timeout now targetDigest)
    (nodup : names.Nodup)
    (covered : ∀ name, owned name ≠ none → name ∈ names) :
    2 ≤ (findUnhealthySlots lib owned rs targetDigest).length ↔
      2 ≤ Set.encard {name | ∃ bn, owned name = some bn ∧
        bn.inRebootSlot = true ∧
        IsUnhealthy lib timeout now targetDigest bn} := by
  have same : {name | ∃ bn, owned name = some bn ∧ bn.inRebootSlot = true ∧
      IsUnhealthy lib timeout now targetDigest bn} =
        ((unhealthyNames lib owned names timeout now
          targetDigest).toFinset : Set String) := by
    ext name
    simp only [Set.mem_ofPred_eq, List.coe_toFinset, mem_unhealthyNames]
    constructor
    · rintro ⟨bn, isOwned, unhealthy⟩
      exact ⟨covered name (by simp [isOwned]), bn, isOwned, unhealthy⟩
    · exact fun found => found.2
  rw [same, Set.encard_coe_eq_coe_finsetCard,
    List.toFinset_card_of_nodup (nodup_unhealthyNames nodup), ← listed,
    List.length_map]
  norm_cast

end Unhealthy

/-! ## What the rollout leaves alone -/

/-- The actions of a chain of steps, and what they all keep. -/
theorem kept_of_steps
    {c : PassContext} {loud : Bool} {admitted : Action → Bool}
    {R : World → World → Prop} [IsPreorder World R]
    (keeps : ∀ {budget action w w'}, Effect c budget action w w' →
      admitted action = true → R w w') {seen seen' : Seen}
    (steps : Relation.ReflTransGen (Step c loud) seen seen') :
    ∃ done, seen'.log = seen.log ++ done ∧
      ((∀ entry ∈ done, admitted entry.action = true) →
        R seen.world seen'.world) := by
  induction steps with
  | refl => exact ⟨[], by simp, fun _ => refl _⟩
  | tail _ step ih =>
      obtain ⟨done, isLog, kept⟩ := ih
      cases step with
      | halt _ _ => exact ⟨done, isLog, kept⟩
      | resolveMaxUnavailable _ _ _ _ => exact ⟨done, isLog, kept⟩
      | @act action world _ effect =>
          refine ⟨done ++ [⟨action, world⟩], ?_, fun all => ?_⟩
          · simp [isLog]
          · have last := keeps effect (all ⟨action, world⟩ (by simp))
            exact Trans.trans
              (kept fun entry member => all entry (by simp [member])) last

theorem Quietly.kept
    {c : PassContext} {loud : Bool} {admitted : Action → Bool}
    {R : World → World → Prop} [IsPreorder World R]
    (keeps : ∀ {budget action w w'}, Effect c budget action w w' →
      admitted action = true → R w w')
    {s s' : PassState} (quietly : Quietly admitted s s')
    (steps : Relation.ReflTransGen (Step c loud) s.seen s'.seen) :
    R s.world s'.world := by
  obtain ⟨done, isLog, kept⟩ := kept_of_steps keeps steps
  obtain ⟨done', isLog', all⟩ := quietly.log
  have same : done = done' :=
    List.append_cancel_left (isLog.symm.trans isLog')
  exact kept (same ▸ all)

/-- All BootcNodes look alike through the view. -/
def AgreeOn {β : Type} (view : BootcNode → β) (w w' : World) : Prop :=
  ∀ name, (w'.api.bootcNode name).map view = (w.api.bootcNode name).map view

instance {β : Type} (view : BootcNode → β) :
    IsPreorder World (AgreeOn view) where
  refl := fun _ _ => rfl
  trans := fun _ _ _ first second name => (second name).trans (first name)

structure Diagnosis where
  owners : List OwnerReference
  image : String
  status : BootcNodeStatus

/-- What decides whether a node is degraded. -/
def BootcNode.diagnosis (bn : BootcNode) : Diagnosis :=
  { owners := bn.ownerReferences
    image := bn.spec.desiredImage
    status := bn.status }

/-- A slot of a node that is not about to be drained for it. -/
def BootcNode.settledSlot (lib : ReferenceLibrary) (bn : BootcNode) : Bool :=
  bn.inRebootSlot && (classifyNode lib bn).toOption != some .staged

section Diagnosis

variable {lib : ReferenceLibrary} {bn bn' : BootcNode}
  (same : bn'.diagnosis = bn.diagnosis)

include same

theorem classifyNode_of_diagnosis :
    classifyNode lib bn' = classifyNode lib bn :=
  classifyNode_congr (congrArg Diagnosis.image same)
    (congrArg Diagnosis.status same)

theorem isControlledBy_of_diagnosis (pool : BootcNodePool) :
    bn'.isControlledBy pool = bn.isControlledBy pool := by
  have owners : bn'.ownerReferences = bn.ownerReferences :=
    congrArg Diagnosis.owners same
  simp only [BootcNode.isControlledBy, BootcNode.controllerOf, owners]

section

variable (timeout : Duration) (now : Time)

theorem rebootTimedOut_of_diagnosis :
    rebootTimedOut bn' timeout now = rebootTimedOut bn timeout now := by
  have status : bn'.status = bn.status := congrArg Diagnosis.status same
  simp only [rebootTimedOut, status]

theorem isDegraded_of_diagnosis :
    IsDegraded lib timeout now bn' ↔ IsDegraded lib timeout now bn := by
  simp only [IsDegraded, classifyNode_of_diagnosis same,
    rebootTimedOut_of_diagnosis same]

theorem isUnhealthy_of_diagnosis (targetDigest : String) :
    IsUnhealthy lib timeout now targetDigest bn' ↔
      IsUnhealthy lib timeout now targetDigest bn := by
  have status : bn'.status = bn.status := congrArg Diagnosis.status same
  simp only [IsUnhealthy, classifyNode_of_diagnosis same,
    rebootTimedOut_of_diagnosis same, status]

end

theorem settledSlot_of_diagnosis
    (slot : bn'.inRebootSlot = bn.inRebootSlot) :
    bn'.settledSlot lib = bn.settledSlot lib := by
  simp only [BootcNode.settledSlot, slot, classifyNode_of_diagnosis same]

end Diagnosis

/-- An unhealthy node is not staged. -/
theorem IsUnhealthy.settledSlot
    {lib : ReferenceLibrary} {timeout : Duration} {now : Time}
    {targetDigest : String} {bn : BootcNode}
    (unhealthy : IsUnhealthy lib timeout now targetDigest bn) :
    bn.settledSlot lib = bn.inRebootSlot := by
  unfold BootcNode.settledSlot
  rcases unhealthy with ⟨state, _⟩ | state | ⟨state, _⟩ <;>
    simp [state, Except.toOption]

section Effects

variable {c : PassContext} {budget : Option Int} {action : Action}
  {w w' : World}

theorem Effect.agreeOn_diagnosis
    (effect : Effect c budget action w w')
    (kept : action.keepsTargets = true) :
    AgreeOn BootcNode.diagnosis w w' := by
  intro name
  have change := effect.bootcNodeChange name
  generalize w'.api.bootcNode name = after at change
  cases change with
  | kept => rfl
  | created _ _ => cases kept
  | synced _ _ => cases kept
  | approved owns _ _ => rw [owns.stored]; rfl
  | annotated owns _ => rw [owns.stored]; rfl
  | freed owns _ => rw [owns.stored]; rfl
  | assigned owns _ _ => rw [owns.stored]; rfl
  | deleted _ _ => cases kept

theorem Action.keepsTargets_of_keepsSlots
    (kept : action.keepsSlots = true) : action.keepsTargets = true := by
  unfold Action.keepsSlots at kept
  split at kept
  · cases kept
  · exact kept

/-- Behind the search for unhealthy slots only staged nodes get slots. -/
theorem Effect.agreeOn_settledSlot
    (effect : Effect c budget action w w')
    (kept : action.keepsSlots = true) :
    AgreeOn (BootcNode.settledSlot c.reconciler.references) w w' := by
  intro name
  have change := effect.bootcNodeChange name
  generalize w'.api.bootcNode name = after at change
  cases change with
  | kept => rfl
  | created _ _ => cases kept
  | synced _ _ => cases kept
  | approved owns _ _ => rw [owns.stored]; rfl
  | @annotated _ bn annotations owns slot =>
      have same : BootcNode.settledSlot c.reconciler.references
          { bn with annotations := annotations } =
            bn.settledSlot c.reconciler.references :=
        settledSlot_of_diagnosis rfl slot
      rw [owns.stored, Option.map_some, Option.map_some, same]
  | freed _ _ => cases kept
  | @assigned bn annotations owns staged _ =>
      rw [owns.stored, Option.map_some, Option.map_some]
      have stillStaged : classifyNode c.reconciler.references
          { bn with annotations := annotations } = .ok .staged :=
        (classifyNode_of_diagnosis rfl).trans staged
      simp [BootcNode.settledSlot, staged, stillStaged, Except.toOption]
  | deleted _ _ => cases kept

end Effects

/-! ## The findings in terms of the world -/

/-- The pool owns a degraded node. -/
def HasDegradedNode (lib : ReferenceLibrary) (pool : BootcNodePool)
    (now : Time) (w : World) : Prop :=
  ∃ name bn, w.api.bootcNode name = some bn ∧
    bn.isControlledBy pool = true ∧
    IsDegraded lib (resolveRebootTimeout pool) now bn

/-- The nodes that count towards a halt. -/
def unhealthySlots (lib : ReferenceLibrary) (pool : BootcNodePool)
    (now : Time) (w : World) : Set String :=
  {name | ∃ bn, w.api.bootcNode name = some bn ∧
    bn.isControlledBy pool = true ∧ bn.inRebootSlot = true ∧
    IsUnhealthy lib (resolveRebootTimeout pool) now
      pool.status.targetDigest bn}

section Worlds

variable {lib : ReferenceLibrary} {pool pool' : BootcNodePool} {now : Time}
  {w w' : World}

theorem AgreeOn.exists_old
    {β : Type} {view : BootcNode → β} (agree : AgreeOn view w w')
    {bn' : BootcNode} (stored : w'.api.bootcNode name = some bn') :
    ∃ bn, w.api.bootcNode name = some bn ∧ view bn' = view bn := by
  have here := agree name
  rw [stored, Option.map_some] at here
  obtain ⟨bn, isBn, same⟩ := Option.map_eq_some_iff.mp here.symm
  exact ⟨bn, isBn, same.symm⟩

theorem AgreeOn.symm
    {β : Type} {view : BootcNode → β} (agree : AgreeOn view w w') :
    AgreeOn view w' w :=
  fun name => (agree name).symm

theorem HasDegradedNode.of_agreeOn
    (agree : AgreeOn BootcNode.diagnosis w w')
    (degraded : HasDegradedNode lib pool now w') :
    HasDegradedNode lib pool now w := by
  obtain ⟨name, bn', stored, controlled, isDegraded⟩ := degraded
  obtain ⟨bn, isBn, same⟩ := agree.exists_old stored
  exact ⟨name, bn, isBn,
    (isControlledBy_of_diagnosis same pool).symm.trans controlled,
    (isDegraded_of_diagnosis same _ now).mp isDegraded⟩

theorem hasDegradedNode_iff (agree : AgreeOn BootcNode.diagnosis w w') :
    HasDegradedNode lib pool now w' ↔ HasDegradedNode lib pool now w :=
  ⟨.of_agreeOn agree, .of_agreeOn agree.symm⟩

theorem unhealthySlots_subset
    (agree : AgreeOn BootcNode.diagnosis w w')
    (slots : AgreeOn (BootcNode.settledSlot lib) w w') :
    unhealthySlots lib pool now w' ⊆ unhealthySlots lib pool now w := by
  rintro name ⟨bn', stored, controlled, slotted, unhealthy⟩
  obtain ⟨bn, isBn, same⟩ := agree.exists_old stored
  obtain ⟨old, isOld, slot⟩ := slots.exists_old stored
  obtain rfl := Option.some.inj (isBn.symm.trans isOld)
  have wasUnhealthy := (isUnhealthy_of_diagnosis same _ _ _).mp unhealthy
  refine ⟨bn, isBn,
    (isControlledBy_of_diagnosis same pool).symm.trans controlled, ?_,
    wasUnhealthy⟩
  rw [← wasUnhealthy.settledSlot, ← slot, unhealthy.settledSlot]
  exact slotted

theorem unhealthySlots_eq
    (agree : AgreeOn BootcNode.diagnosis w w')
    (slots : AgreeOn (BootcNode.settledSlot lib) w w') :
    unhealthySlots lib pool now w' = unhealthySlots lib pool now w :=
  Set.Subset.antisymm (unhealthySlots_subset agree slots)
    (unhealthySlots_subset agree.symm slots.symm)

theorem HasDegradedNode.congr (same : pool'.SameTarget pool) :
    HasDegradedNode lib pool' now w ↔ HasDegradedNode lib pool now w := by
  simp only [HasDegradedNode, same.isControlledBy, resolveRebootTimeout,
    same.spec]

theorem unhealthySlots_congr (same : pool'.SameTarget pool) :
    unhealthySlots lib pool' now w = unhealthySlots lib pool now w := by
  simp only [unhealthySlots, same.isControlledBy, resolveRebootTimeout,
    same.spec, same.targetDigest]

variable {c : PassContext} {s : PassState}

theorem exists_owned_iff
    (recalls : Recalls c s) (name : String) (fact : BootcNode → Prop) :
    (∃ bn, s.owned name = some bn ∧ fact bn) ↔
      ∃ bn, s.world.api.bootcNode name = some bn ∧
        bn.isControlledBy c.pool = true ∧ fact bn := by
  simp only [recalls.owned, Option.filter_eq_some_iff, and_assoc]

theorem hasDegradedNode_iff_owned (recalls : Recalls c s) :
    HasDegradedNode lib c.pool now s.world ↔
      ∃ name bn, s.owned name = some bn ∧
        IsDegraded lib (resolveRebootTimeout c.pool) now bn :=
  exists_congr fun name => (exists_owned_iff recalls name _).symm

theorem unhealthySlots_eq_owned (recalls : Recalls c s) :
    unhealthySlots lib c.pool now s.world =
      {name | ∃ bn, s.owned name = some bn ∧ bn.inRebootSlot = true ∧
        IsUnhealthy lib (resolveRebootTimeout c.pool) now
          c.pool.status.targetDigest bn} := by
  ext name
  exact (exists_owned_iff recalls name _).symm

end Worlds

/-! ## The rollout -/

/-- The pool after a problem has been reported, if there is one. -/
inductive Raised (now : Time) (reason : String) (problem : Prop)
    (pool : BootcNodePool) : BootcNodePool → Prop
  | found (message : String) :
      problem →
      Raised now reason problem pool
        (setPoolDegraded now reason message pool)
  | absent : ¬ problem → Raised now reason problem pool pool

theorem Raised.congr
    {now : Time} {reason : String} {problem problem' : Prop}
    {pool pool' : BootcNodePool} (same : problem' ↔ problem)
    (reported : Raised now reason problem pool pool') :
    Raised now reason problem' pool pool' := by
  cases reported with
  | found message holds => exact .found message (same.mpr holds)
  | absent fails => exact .absent fun holds => fails (same.mp holds)

section

variable {c : PassContext} {s : PassState}

/-- A rebooting node with the image of the pass does not run it yet. -/
theorem Targets.rebootsFromOther
    {budget : Option Int} (targets : Targets c budget s) (canonical : ∀ digest,
      c.reconciler.references.digestOf c.desiredImage = some digest →
        digest = c.pool.status.targetDigest) :
    RebootsFromOther c.reconciler.references c.pool.status.targetDigest
      s.owned := by
  intro name bn isOwned rebooting
  obtain ⟨booted, _, digest, isDigest, different⟩ :=
    runsOther_of_updating rebooting (by simp)
  rw [targets.targeted name bn isOwned] at isDigest
  exact ⟨booted, canonical digest isDigest ▸ different⟩

theorem Tracks.recalls (tracks : Tracks c s) : Recalls c s :=
  ⟨tracks.target, tracks.owned⟩

theorem stateOf_congr
    {lib : ReferenceLibrary} {owned owned' : String → Option BootcNode}
    (same : ∀ name, (owned' name).map BootcNode.diagnosis =
      (owned name).map BootcNode.diagnosis) :
    stateOf lib owned' = stateOf lib owned := by
  funext name
  have here := same name
  unfold stateOf
  cases isOwned' : owned' name with
  | none =>
      rw [isOwned', Option.map_none, eq_comm, Option.map_eq_none_iff] at here
      rw [here]
  | some bn' =>
      rw [isOwned', Option.map_some, eq_comm, Option.map_eq_some_iff] at here
      obtain ⟨bn, isOwned, isSame⟩ := here
      simp [isOwned, classifyNode_of_diagnosis isSame.symm]

theorem isRebootTimedOut_congr
    {owned owned' : String → Option BootcNode}
    (same : ∀ name, (owned' name).map BootcNode.diagnosis =
      (owned name).map BootcNode.diagnosis)
    (timeout : Duration) (now : Time) :
    isRebootTimedOut owned' timeout now = isRebootTimedOut owned timeout now := by
  funext name
  have here := same name
  unfold isRebootTimedOut
  cases isOwned' : owned' name with
  | none =>
      rw [isOwned', Option.map_none, eq_comm, Option.map_eq_none_iff] at here
      rw [here]
  | some bn' =>
      rw [isOwned', Option.map_some, eq_comm, Option.map_eq_some_iff] at here
      obtain ⟨bn, isOwned, isSame⟩ := here
      simp [isOwned, rebootTimedOut_of_diagnosis isSame.symm]

theorem owned_diagnosis
    {s' : PassState} (recalls : Recalls c s) (recalls' : Recalls c s')
    (agree : AgreeOn BootcNode.diagnosis s.world s'.world) (name : String) :
    (s'.owned name).map BootcNode.diagnosis =
      (s.owned name).map BootcNode.diagnosis := by
  rw [recalls.owned, recalls'.owned]
  have here := agree name
  cases stored' : s'.world.api.bootcNode name with
  | none =>
      rw [stored', Option.map_none, eq_comm, Option.map_eq_none_iff] at here
      rw [here]
  | some bn' =>
      rw [stored', Option.map_some, eq_comm, Option.map_eq_some_iff] at here
      obtain ⟨bn, stored, isSame⟩ := here
      rw [stored, Option.filter_some, Option.filter_some,
        isControlledBy_of_diagnosis isSame]
      split
      · exact congrArg some isSame.symm
      · rfl

end

namespace BootcNodePoolReconciler

section Drive

variable {c : PassContext} {s s₁ s₂ s₃ s' : PassState}

structure Classified (c : PassContext) (s₁ s₂ : PassState) : Prop where
  world : s₂.world = s₁.world
  owned : s₂.owned = s₁.owned
  upToDate : s₂.rs.upToDate = (c.env.order .classification).filter
    fun name => stateOf c.reconciler.references s₁.owned name = some .upToDate
  degraded : s₂.rs.degraded = (c.env.order .classification).filter
      (fun name =>
        stateOf c.reconciler.references s₁.owned name = some .degraded) ++
    timedOutNodes c.reconciler.references s₁.owned
      (c.env.order .classification) (resolveRebootTimeout c.pool) c.env.now
  timedOut : s₂.rs.rebootTimedOutNodes =
    timedOutNodes c.reconciler.references s₁.owned
      (c.env.order .classification) (resolveRebootTimeout c.pool) c.env.now
  reported : Raised c.env.now poolNodeDegraded
    (HasDegradedNode c.reconciler.references c.pool c.env.now s₁.world)
    s₁.pool s₂.pool

theorem classified_of_classifyNodes
    (targets : Targets c none s₁)
    (returned : c.reconciler.classifyNodes c.env s₁ = (.ok (), s₂)) :
    Classified c s₁ s₂ := by
  have timeout : resolveRebootTimeout s₁.pool = resolveRebootTimeout c.pool := by
    unfold resolveRebootTimeout
    rw [targets.target.spec]
  unfold classifyNodes at returned
  rw [update_apply, Prod.mk.injEq, timeout] at returned
  rw [← returned.2]
  obtain ⟨upToDate, degraded, timedOut⟩ := applyRebootTimeouts_buckets
    c.reconciler.references s₁.owned (c.env.order .classification)
    (resolveRebootTimeout c.pool) c.env.now
  refine ⟨rfl, rfl, upToDate, degraded, timedOut, ?_⟩
  have found : _ ↔ ∃ name bn, s₁.owned name = some bn ∧
      IsDegraded c.reconciler.references (resolveRebootTimeout c.pool)
        c.env.now bn :=
    degraded_ne_nil_iff (targets.covered .classification)
  rw [← degraded, ← hasDegradedNode_iff_owned targets.recalls] at found
  dsimp only
  split
  · next nonempty => exact .found _ (found.mp nonempty)
  · next empty => exact .absent fun problem => empty (found.mpr problem)

/-- The state in which `driveRollout` looks for unhealthy slots: `s₁` is
classified, which gives `s₂`, and completed slots are freed. -/
structure Examined (c : PassContext) (s₁ s₂ s₃ : PassState) : Prop where
  classified : Classified c s₁ s₂
  rolling : Rolling c none s₃
  occupied : Occupied c s₃
  findings : s₃.findings = s₂.findings
  steps : Relation.ReflTransGen (Step c false) s₂.seen s₃.seen
  agree : AgreeOn BootcNode.diagnosis s₁.world s₃.world

theorem examined_of_freeCompletedSlots
    (fresh : c.env.Fresh)
    (targets : Targets c none s₁)
    (classified : c.reconciler.classifyNodes c.env s₁ = (.ok (), s₂))
    (freed : freeCompletedSlots c.env s₂ = (.ok (), s₃)) :
    Examined c s₁ s₂ s₃ := by
  have stopped := BlamesSpec.tolerant c
  have classifies : (regime c).Follows (Targets c none)
      (c.reconciler.classifyNodes c.env)
      (fun _ s => Rolling c none s ∧ Occupied c s) (BlamesSpec c) :=
    follows_classifyNodes
  have rolling₂ := classifies.returns targets classified
  obtain ⟨rolling₃, occupied₃⟩ :=
    (follows_freeCompletedSlots stopped fresh).returns rolling₂ freed
  have quiet := quiet_freeCompletedSlots c.env (.self _) s₂
  have steps := (follows_freeCompletedSlots stopped fresh s₂ rolling₂).1
  rw [freed] at quiet steps
  have isClassified := classified_of_classifyNodes targets classified
  refine ⟨isClassified, rolling₃, occupied₃, quiet.findings, steps, ?_⟩
  rw [← isClassified.world]
  exact quiet.kept Effect.agreeOn_diagnosis steps

/-- `findUnhealthySlots` lists every unhealthy node that holds a slot once. -/
theorem Examined.names
    (examined : Examined c s₁ s₂ s₃) (targets : Targets c none s₁)
    (canonical : ∀ digest,
      c.reconciler.references.digestOf c.desiredImage = some digest →
        digest = c.pool.status.targetDigest) :
    (findUnhealthySlots c.reconciler.references s₃.owned s₃.rs
        s₃.pool.status.targetDigest).map (·.name) =
      unhealthyNames c.reconciler.references s₃.owned
        (c.env.order .classification) (resolveRebootTimeout c.pool)
        c.env.now c.pool.status.targetDigest := by
  have targets₃ := examined.rolling.toTargets
  have diagnoses := owned_diagnosis targets.recalls targets₃.recalls
    examined.agree
  have states : stateOf c.reconciler.references s₃.owned = _ :=
    stateOf_congr diagnoses
  have timeouts := isRebootTimedOut_congr diagnoses
    (resolveRebootTimeout c.pool) c.env.now
  have upToDate := (congrArg Findings.upToDate examined.findings).trans
    examined.classified.upToDate
  have degraded := (congrArg Findings.degraded examined.findings).trans
    examined.classified.degraded
  have timedOut :=
    (congrArg Findings.rebootTimedOutNodes examined.findings).trans
      examined.classified.timedOut
  unfold timedOutNodes at degraded timedOut
  rw [← states] at upToDate
  rw [← states, ← timeouts] at degraded timedOut
  rw [targets₃.target.targetDigest]
  exact findUnhealthySlots_names upToDate degraded timedOut
    (targets₃.rebootsFromOther canonical)

/-- `findUnhealthySlots` finds two unhealthy slots when there are two. -/
theorem Examined.halts_iff
    (examined : Examined c s₁ s₂ s₃) (targets : Targets c none s₁)
    (nodup : (c.env.order .classification).Nodup)
    (canonical : ∀ digest,
      c.reconciler.references.digestOf c.desiredImage = some digest →
        digest = c.pool.status.targetDigest) :
    unhealthySlotHaltThreshold ≤
        (findUnhealthySlots c.reconciler.references s₃.owned s₃.rs
          s₃.pool.status.targetDigest).length ↔
      2 ≤ (unhealthySlots c.reconciler.references c.pool c.env.now
        s₃.world).encard := by
  have targets₃ := examined.rolling.toTargets
  have listed := examined.names targets canonical
  rw [targets₃.target.targetDigest] at listed ⊢
  rw [unhealthySlots_eq_owned targets₃.recalls]
  exact two_le_findUnhealthySlots_iff listed nodup
    (targets₃.covered .classification)

/-- What a rollout that returns reports is true of the world it leaves. -/
theorem driveRollout_reported
    (fresh : c.env.Fresh)
    (nodup : (c.env.order .classification).Nodup)
    (canonical : ∀ digest,
      c.reconciler.references.digestOf c.desiredImage = some digest →
        digest = c.pool.status.targetDigest)
    (targets : Targets c none s)
    (within : s.world.Within (c.env.order .drainResults))
    (returned : c.reconciler.driveRollout c.env s = (.ok (), s')) :
    ∃ judged,
      Raised c.env.now poolNodeDegraded
        (HasDegradedNode c.reconciler.references c.pool c.env.now s'.world)
        s.pool judged ∧
      Raised c.env.now poolRolloutHalted
        (2 ≤ (unhealthySlots c.reconciler.references c.pool c.env.now
          s'.world).encard) judged s'.pool ∧
      s'.world.api.pool = s.world.api.pool := by
  have stopped := BlamesSpec.tolerant c
  unfold driveRollout at returned
  obtain ⟨_, s₁, collected, returned⟩ := ok_of_bind returned
  obtain ⟨_, s₂, classified, returned⟩ := ok_of_bind returned
  obtain ⟨_, s₃, freed, returned⟩ := ok_of_bind returned
  obtain ⟨unhealthy, _, isRead, returned⟩ := ok_of_bind returned
  cases isRead
  have collected := ok_of_mapError collected
  have freed := ok_of_mapError freed
  obtain ⟨targets₁, isCollected⟩ := (follows_collectDrainResults stopped).returns
    ⟨targets, within⟩ collected
  have examined := examined_of_freeCompletedSlots fresh targets₁ classified
    freed
  have isClassified := examined.classified
  have agree := examined.agree
  have quiet₁ := quiet_collectDrainResults c.env (.self _) s
  rw [collected] at quiet₁
  have pool₁ : s₁.pool = s.pool := congrArg Findings.pool quiet₁.findings
  have pool₃ : s₃.pool = s₂.pool := congrArg Findings.pool examined.findings
  have halts := examined.halts_iff targets₁ nodup canonical
  have reported := isClassified.reported
  rw [pool₁] at reported
  have stored₃ : s₃.world.api.pool = s.world.api.pool := by
    have stored₁ : s₁.world.api.pool = s.world.api.pool :=
      congrArg Findings.storedPools quiet₁.findings
    have stored₂ : s₃.world.api.pool = s₂.world.api.pool :=
      congrArg Findings.storedPools examined.findings
    rw [stored₂, isClassified.world, stored₁]
  split at returned
  · next unhealthy =>
      cases returned
      refine ⟨s₂.pool, reported.congr (hasDegradedNode_iff agree), ?_,
        stored₃⟩
      rw [← pool₃]
      exact .found _ (halts.mp unhealthy)
  · next healthy =>
      have isCollected₂ : Collected s₂.world :=
        isClassified.world ▸ isCollected
      have isCollected₃ : Collected s₃.world :=
        Regime.chain_invariant (fun seen => Collected seen.world)
          (fun step kept name => step.running (kept name)) examined.steps
          isCollected₂
      have quiet' := quiet_advanceRollout c.reconciler c.env
        (.self _) s₃
      have steps' := (follows_advanceRollout fresh s₃
        ⟨⟨examined.rolling, examined.occupied⟩, isCollected₃⟩).1
      rw [returned] at quiet' steps'
      have agree' : AgreeOn BootcNode.diagnosis s₃.world s'.world :=
        quiet'.kept (fun effect kept =>
          effect.agreeOn_diagnosis (Action.keepsTargets_of_keepsSlots kept))
          steps'
      have slots' := quiet'.kept Effect.agreeOn_settledSlot steps'
      have pool' : s'.pool = s₃.pool := congrArg Findings.pool quiet'.findings
      refine ⟨s₂.pool, reported.congr (hasDegradedNode_iff
        (Trans.trans agree agree')), ?_,
        (congrArg Findings.storedPools quiet'.findings).trans stored₃⟩
      rw [pool', pool₃, unhealthySlots_eq agree' slots']
      exact .absent fun unhealthy => healthy (halts.mpr unhealthy)

end Drive

end BootcNodePoolReconciler

end BootcOperator
