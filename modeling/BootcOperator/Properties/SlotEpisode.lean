import BootcOperator.Effects.SlotObjects
import BootcOperator.Effects.Tables
import BootcOperator.Lib.Machine

/-!
# The episode of a reboot slot

The attempts to assign a slot and to give it back may be interrupted between
any two writes and are then tried again from the objects as they are.
Whatever the interruptions, a completed release leaves the Node and its
NodeClaim as they were before the episode, except that an owned annotation
with a value of its own is lost.
-/

namespace BootcOperator

open Program BootcNodePoolReconciler

/-! ## Attempts and their runs -/

/-- An attempt of the controller, made from the objects as they are stored;
`env` decides where it is interrupted. -/
inductive SlotAttempt where
  /-- with the NodeClaim read beforehand, or not -/
  | assign (env : Env) (isPrefetched : Bool)
  | free (env : Env)
  | remove (env : Env)

namespace SlotAttempt

def env : SlotAttempt → Env
  | .assign env _ => env
  | .free env => env
  | .remove env => env

def isAssign : SlotAttempt → Bool
  | .assign _ _ => true
  | _ => false

/-- The outcome of an attempt; there is none when the BootcNode or the Node
is gone. -/
def run (name : String) (w : World) :
    SlotAttempt → Option (Except ApiError Unit × PassState)
  | .assign env isPrefetched =>
      match w.api.bootcNode name, w.api.node name with
      | some bn, some node =>
          some (assignRebootSlot env name bn node
            (if isPrefetched then (lookupNodeClaim node w.api).claim
              else none) (.start w))
      | _, _ => none
  | .free env =>
      match w.api.bootcNode name, w.api.node name with
      | some bn, some node =>
          some (freeRebootSlot env name bn node (.start w))
      | _, _ => none
  | .remove env =>
      match w.api.bootcNode name with
      | some bn => some (removeBootcNode env name bn (.start w))
      | none => none

def IsFresh (attempt : SlotAttempt) : Prop :=
  attempt.env.Fresh

end SlotAttempt

/-- The attempts at the slot of one node; each leaves its world. -/
def slotMachine (name : String) : Machine World SlotAttempt where
  step w attempt := (attempt.run name w).map fun outcome => outcome.2.world

/-- An attempt to assign the slot, with fresh reads. -/
def IsAssignment (_ : World) (attempt : SlotAttempt) : Prop :=
  attempt.isAssign = true ∧ attempt.IsFresh

/-- An attempt to give the slot back, with fresh reads. -/
def IsRelease (_ : World) (attempt : SlotAttempt) : Prop :=
  attempt.isAssign = false ∧ attempt.IsFresh

section Runs

variable {name : String} {origin : SlotTarget} {first : BootcNode}

variable {w w' : World} {attempt : SlotAttempt}

/-- The world before the episode or within it. -/
def BeforeRelease (name : String) (origin : SlotTarget)
    (first : BootcNode) (w : World) : Prop :=
  ∃ bn target, w.api.bootcNode name = some bn ∧ w.Shows name target ∧
    ((bn = first ∧ target = origin ∧ first.HoldsNothing) ∨
      SlotRecorded origin bn target)

/-- All that the slot has changed so far is on record. -/
def WithinSlot (name : String) (origin : SlotTarget) (w : World) : Prop :=
  ∃ bn target, w.api.bootcNode name = some bn ∧ w.Shows name target ∧
    SlotRecorded origin bn target

theorem BeforeRelease.slottable
    {bn : BootcNode} {target : SlotTarget}
    (state : (bn = first ∧ target = origin ∧ first.HoldsNothing) ∨
      SlotRecorded origin bn target) : Slottable origin bn target := by
  rcases state with ⟨rfl, rfl, clear⟩ | recorded
  · exact .inl ⟨clear, rfl⟩
  · exact .inr recorded

theorem SlotAttempt.run_assign
    {bn : BootcNode} {target : SlotTarget} {env : Env} {isPrefetched : Bool}
    {outcome : Except ApiError Unit × PassState}
    (ran : (SlotAttempt.assign env isPrefetched).run name w = some outcome)
    (stored : w.api.bootcNode name = some bn) (shown : w.Shows name target) :
    ∃ prefetched, (prefetched = none ∨ prefetched = target.claim) ∧
      assignRebootSlot env name bn target.node prefetched (.start w) =
        outcome := by
  simp only [SlotAttempt.run, stored, shown.node, Option.some.injEq] at ran
  refine ⟨_, ?_, ran⟩
  cases isPrefetched with
  | false => exact .inl rfl
  | true => exact .inr shown.claim

/-- An attempt to assign the slot leads on, and a write to the BootcNode leads
into it. -/
theorem attempt_assign
    (assigning : IsAssignment w attempt)
    {outcome : Except ApiError Unit × PassState}
    (ran : attempt.run name w = some outcome)
    (before : BeforeRelease name origin first w) :
    BeforeRelease name origin first outcome.2.world ∧
      (WithinSlot name origin w ∨ outcome.2.log ≠ [] →
        WithinSlot name origin outcome.2.world) := by
  obtain ⟨bn, target, stored, shown, state⟩ := before
  cases attempt with
  | free env => cases assigning.1
  | remove env => cases assigning.1
  | assign env isPrefetched =>
      obtain ⟨prefetched, isClaim, rfl⟩ :=
        SlotAttempt.run_assign ran stored shown
      have fresh : env.Fresh :=
        assigning.2
      have attempted : Attempted name origin bn
          (assignRebootSlot env name bn target.node prefetched
            (.start w)).2 :=
        (attempts_assignRebootSlot (BeforeRelease.slottable state) fresh
          isClaim).final ⟨⟨stored, shown⟩, rfl⟩
      rcases attempted with
        ⟨bn', target', holds, recorded⟩ | ⟨holds, clear, unlogged⟩
      · exact ⟨⟨bn', target', holds.1, holds.2, .inr recorded⟩,
          fun _ => ⟨bn', target', holds.1, holds.2, recorded⟩⟩
      · refine ⟨⟨bn, origin, holds.1, holds.2, ?_⟩, ?_⟩
        · rcases state with ⟨isFirst, _, _⟩ | recorded
          · exact .inl ⟨isFirst, rfl, isFirst ▸ clear⟩
          · exact absurd (recorded.slot.symm.trans clear.slot) (by simp)
        · rintro (⟨bn', target', stored', _, recorded⟩ | logged)
          · have same := Option.some.inj (stored.symm.trans stored')
            subst same
            exact absurd (recorded.slot.symm.trans clear.slot) (by simp)
          · exact absurd unlogged logged

theorem step_eq_some (stepped : (slotMachine name).step w attempt = some w') :
    ∃ outcome, attempt.run name w = some outcome ∧ outcome.2.world = w' := by
  simpa [slotMachine] using stepped

/-- Attempts to assign the slot, before and after its first write. -/
theorem path_assign
    {attempts : List SlotAttempt}
    (path : (slotMachine name).Path IsAssignment w attempts w')
    (before : BeforeRelease name origin first w) :
    BeforeRelease name origin first w' ∧
      (WithinSlot name origin w → WithinSlot name origin w') := by
  induction path with
  | nil w => exact ⟨before, fun holds => holds⟩
  | cons assigning stepped _ ih =>
      obtain ⟨outcome, ran, rfl⟩ := step_eq_some stepped
      obtain ⟨after, keeps⟩ := attempt_assign assigning ran before
      obtain ⟨final, keepsLater⟩ := ih after
      exact ⟨final, fun holds => keepsLater (keeps (.inl holds))⟩

/-- What is not given back yet is still on record. -/
def WithinRelease (name : String) (origin : SlotTarget) (w : World) : Prop :=
  w.api.bootcNode name = none ∨
    ∃ bn target, w.api.bootcNode name = some bn ∧ w.Shows name target ∧
      Restorable origin bn.annotations target

theorem WithinSlot.withinRelease (holds : WithinSlot name origin w) :
    WithinRelease name origin w := by
  obtain ⟨bn, target, stored, shown, recorded⟩ := holds
  exact .inr ⟨bn, target, stored, shown, recorded.restorable⟩

theorem Releasable.withinRelease
    {s : PassState} (releasable : Releasable name origin s) :
    WithinRelease name origin s.world := by
  obtain ⟨bn, target, holds, restorable⟩ := releasable
  exact .inr ⟨bn, target, holds.1, holds.2, restorable⟩

/-- The release is complete, and a freed BootcNode records nothing. -/
def ReleaseDone (name : String) (origin : SlotTarget)
    (attempt : SlotAttempt) (w : World) : Prop :=
  (∃ target, w.Shows name target ∧ Returned origin target) ∧
    ((∃ env, attempt = .free env) →
      ∃ bn, w.api.bootcNode name = some bn ∧ bn.HoldsNothing)

/-- An attempt to release the slot leads on, and a complete one to the end. -/
theorem attempt_release
    (releasing : IsRelease w attempt) {result : Except ApiError Unit}
    {s : PassState} (ran : attempt.run name w = some (result, s))
    (before : WithinRelease name origin w) :
    WithinRelease name origin s.world ∧
      (result = .ok () → ReleaseDone name origin attempt s.world) := by
  cases attempt with
  | assign env isPrefetched => cases releasing.1
  | free env =>
      rcases before with gone | ⟨bn, target, stored, shown, restorable⟩
      · simp [SlotAttempt.run, gone] at ran
      · simp only [SlotAttempt.run, stored, shown.node,
          Option.some.injEq] at ran
        have fresh : env.Fresh :=
          releasing.2
        have ends := (releases_freeRebootSlot restorable fresh
          (.start w) ⟨stored, shown⟩).2
        rw [ran] at ends
        cases result with
        | error e => exact ⟨Releasable.withinRelease ends, nofun⟩
        | ok value =>
            obtain ⟨bn', target', holds, returned, clear⟩ := ends
            exact ⟨.inr ⟨bn', target', holds.1, holds.2,
              returned.restorable clear⟩, fun _ =>
              ⟨⟨target', holds.2, returned⟩,
                fun _ => ⟨bn', holds.1, clear⟩⟩⟩
  | remove env =>
      rcases before with gone | ⟨bn, target, stored, shown, restorable⟩
      · simp [SlotAttempt.run, gone] at ran
      · simp only [SlotAttempt.run, stored, Option.some.injEq] at ran
        have fresh : env.Fresh :=
          releasing.2
        have ends := (releases_removeBootcNode restorable fresh
          (.start w) ⟨stored, shown⟩).2
        rw [ran] at ends
        cases result with
        | error e => exact ⟨Releasable.withinRelease ends, nofun⟩
        | ok value =>
            obtain ⟨gone, target', shown', returned⟩ := ends
            exact ⟨.inl gone, fun _ =>
              ⟨⟨target', shown', returned⟩, nofun⟩⟩

theorem path_release
    {attempts : List SlotAttempt}
    (path : (slotMachine name).Path IsRelease w attempts w')
    (before : WithinRelease name origin w) :
    WithinRelease name origin w' := by
  refine path.invariant (WithinRelease name origin) ?_ before
  intro w attempt w' within releasing stepped
  obtain ⟨outcome, ran, rfl⟩ := step_eq_some stepped
  exact (attempt_release releasing ran within).1

/-- After an episode of any number of interrupted attempts the Node has its
original cordon state.  On a Node that belongs to Karpenter and on its
NodeClaim, `do-not-repair` and `do-not-disrupt` are as before where they were
absent or `true`, and absent where they had another value; a Node that does
not belong to Karpenter keeps its annotations.  A slot that was freed leaves
no records on the BootcNode. -/
theorem slot_episode_round_trip
    {w w₁ w₂ w₃ : World} {bn : BootcNode}
    {earlier later releases : List SlotAttempt} {writing last : SlotAttempt}
    {written : Except ApiError Unit × PassState} {s : PassState}
    (stored : w.api.bootcNode name = some bn) (clear : bn.HoldsNothing)
    (shown : w.Shows name origin)
    (attempts : (slotMachine name).Path IsAssignment w earlier w₁)
    (isAssign : IsAssignment w₁ writing)
    (wrote : writing.run name w₁ = some written)
    (wroteBootcNode : ∃ entry ∈ written.2.log,
      entry.action = .wrote (.assignSlot name))
    (retries : (slotMachine name).Path IsAssignment written.2.world later w₂)
    (released : (slotMachine name).Path IsRelease w₂ releases w₃)
    (isRelease : IsRelease w₃ last)
    (completed : last.run name w₃ = some (.ok (), s)) :
    (∃ node, s.world.api.node name = some node ∧
      node.unschedulable = origin.node.unschedulable ∧
      node.annotations =
        if origin.claim.isSome then origin.node.annotations.afterFence
        else origin.node.annotations) ∧
    (∀ claimName original, origin.claim = some (claimName, original) →
      ∃ claim, s.world.api.nodeClaim claimName = some claim ∧
        claim.annotations = original.annotations.afterFence) ∧
    ((∃ env, last = .free env) →
      ∃ bn, s.world.api.bootcNode name = some bn ∧ bn.HoldsNothing) := by
  have start : BeforeRelease name origin bn w :=
    ⟨bn, origin, stored, shown, .inl ⟨rfl, rfl, clear⟩⟩
  obtain ⟨before, _⟩ := path_assign attempts start
  obtain ⟨after, entered⟩ := attempt_assign isAssign wrote before
  have logged : written.2.log ≠ [] := by
    obtain ⟨entry, member, _⟩ := wroteBootcNode
    exact List.ne_nil_of_mem member
  obtain ⟨_, stays⟩ := path_assign retries after
  have holds := stays (entered (.inr logged))
  have within := path_release released holds.withinRelease
  obtain ⟨⟨target, final, returned⟩, freed⟩ :=
    (attempt_release isRelease completed within).2 rfl
  refine ⟨⟨target.node, final.node, returned.cordon, returned.node⟩, ?_,
    freed⟩
  intro claimName original isOriginal
  have isSome : target.claim.isSome = true := by
    rw [returned.owned, isOriginal]
    rfl
  obtain ⟨⟨heldName, claim⟩, isClaim⟩ := Option.isSome_iff_exists.mp isSome
  obtain ⟨original', isOriginal', same⟩ :=
    returned.claim heldName claim isClaim
  rw [isOriginal, Option.some.injEq, Prod.mk.injEq] at isOriginal'
  obtain ⟨rfl, rfl⟩ := isOriginal'
  exact ⟨claim, final.nodeClaim_eq isClaim, same⟩

end Runs

/-! ## Sample episodes -/

/-- A cordoned Node, with an annotation of its own, from a NodeClaim. -/
def karpenterNode : Node :=
  { plainNode with
    unschedulable := true
    annotations := Annotations.empty.set .doNotRepair "true"
    ownerReferences :=
      [{ apiVersion := nodeClaimAPIVersion
         kind := nodeClaimKind
         name := "claim"
         uid := "claim-uid"
         controller := false }] }

def karpenterClaim : NodeClaim :=
  { annotations := Annotations.empty.set .doNotDisrupt "false"
    deletionTimestamp := none
    conditions := .ok [] }

def karpenterWorld : World :=
  let w := Tables.world
    { nodes := [("n", karpenterNode)]
      bootcNodes := [("n", stagedNode "os@b" "os@a")] }
  { w with
    api :=
      { w.api with
        nodeClaim := fun name =>
          if name = "claim" then some karpenterClaim else none
        nodeClaimCRD := true } }

/-- Surroundings that interrupt the controller at one request. -/
def interruptedAt (interrupted : Call) : Env :=
  { Env.calm ["n"] 0 with
    fails := fun call =>
      if call = interrupted then some "connection refused" else none }

theorem stagedNode_holdsNothing (desired booted : String) :
    (stagedNode desired booted).HoldsNothing where
  slot := rfl
  record := rfl
  node key := by cases key <;> rfl
  claim key := by cases key <;> rfl

theorem karpenterWorld_shows :
    karpenterWorld.Shows "n"
      ⟨karpenterNode, some ("claim", karpenterClaim)⟩ where
  node := rfl
  claim := rfl
  owned := by decide
  alive := rfl

def attemptedWorld (w : World) (attempt : SlotAttempt) : World :=
  ((slotMachine "n").step w attempt).getD w

section

variable {w : World} {attempt : SlotAttempt}

theorem path_attemptedWorld
    {condition : World → SlotAttempt → Prop} (meets : condition w attempt)
    (enabled : ((slotMachine "n").step w attempt).isSome = true) :
    (slotMachine "n").Path condition w [attempt]
      (attemptedWorld w attempt) := by
  obtain ⟨next, stepped⟩ := Option.isSome_iff_exists.mp enabled
  have isNext : attemptedWorld w attempt = next := by
    rw [attemptedWorld, stepped]
    rfl
  rw [isNext]
  exact .cons meets stepped (.nil next)

theorem exists_of_completes
    {name : String}
    (completes : (attempt.run name w).map (fun outcome => outcome.1.isOk) =
      some true) : ∃ s, attempt.run name w = some (.ok (), s) := by
  obtain ⟨⟨result, s⟩, ran, isOk⟩ := Option.map_eq_some_iff.mp completes
  cases result with
  | error e => cases isOk
  | ok value => exact ⟨s, ran⟩

def assigns (name : String) (outcome : Except ApiError Unit × PassState) :
    Bool :=
  outcome.2.log.any fun entry =>
    match entry.action with
    | .wrote call => call = .assignSlot name
    | _ => false

theorem exists_of_assigns
    (assigned : (attempt.run "n" w).any (assigns "n") = true) :
    ∃ written, attempt.run "n" w = some written ∧
      written.2.world = attemptedWorld w attempt ∧
      ∃ entry ∈ written.2.log, entry.action = .wrote (.assignSlot "n") := by
  obtain ⟨written, ran, passes⟩ := (Option.any_eq_true _ _).mp assigned
  refine ⟨written, ran, ?_, ?_⟩
  · simp [attemptedWorld, slotMachine, ran]
  · obtain ⟨entry, member, isWrite⟩ := List.any_eq_true.mp passes
    refine ⟨entry, member, ?_⟩
    cases isAction : entry.action <;> simp_all

end

/-- The first attempt is refused at its first write, the second is interrupted
before its last; the first release is interrupted before its last write. -/
theorem slot_episode_round_trip_of_interruptions :
    let w₁ := attemptedWorld karpenterWorld
      (.assign (interruptedAt (.assignSlot "n")) false)
    let w₂ := attemptedWorld w₁
      (.assign (interruptedAt (.cordonNode "n")) true)
    let w₃ := attemptedWorld w₂ (.assign (Env.calm ["n"] 0) false)
    let w₄ := attemptedWorld w₃ (.free (interruptedAt (.freeSlot "n")))
    ∃ s, (SlotAttempt.free (Env.calm ["n"] 0)).run "n" w₄ =
        some (.ok (), s) ∧
      (∃ node, s.world.api.node "n" = some node ∧
        node.unschedulable = true ∧
        node.annotations = karpenterNode.annotations.afterFence) ∧
      (∃ claim, s.world.api.nodeClaim "claim" = some claim ∧
        claim.annotations = karpenterClaim.annotations.afterFence) ∧
      ∃ bn, s.world.api.bootcNode "n" = some bn ∧ bn.HoldsNothing := by
  intro w₁ w₂ w₃ w₄
  obtain ⟨s, completed⟩ : ∃ s,
      (SlotAttempt.free (Env.calm ["n"] 0)).run "n" w₄ =
        some (.ok (), s) := exists_of_completes (by decide +kernel)
  obtain ⟨written, wrote, isWorld, wroteBootcNode⟩ : ∃ written,
      (SlotAttempt.assign (interruptedAt (.cordonNode "n")) true).run "n"
        w₁ = some written ∧ written.2.world = w₂ ∧
      ∃ entry ∈ written.2.log, entry.action = .wrote (.assignSlot "n") :=
    exists_of_assigns (by decide +kernel)
  have retries : (slotMachine "n").Path IsAssignment written.2.world
      [.assign (Env.calm ["n"] 0) false] w₃ := by
    rw [isWorld]
    exact path_attemptedWorld ⟨rfl, fun _ _ => rfl⟩ (by decide +kernel)
  obtain ⟨node, claim, freed⟩ := slot_episode_round_trip rfl
    (stagedNode_holdsNothing "os@b" "os@a") karpenterWorld_shows
    (path_attemptedWorld ⟨rfl, fun _ _ => rfl⟩ (by decide +kernel))
    ⟨rfl, fun _ _ => rfl⟩ wrote wroteBootcNode retries
    (path_attemptedWorld ⟨rfl, fun _ _ => rfl⟩ (by decide +kernel))
    ⟨rfl, fun _ _ => rfl⟩ completed
  exact ⟨s, completed, node, claim "claim" karpenterClaim rfl,
    freed ⟨_, rfl⟩⟩

def annotatedNode : Node :=
  { plainNode with
    annotations := Annotations.empty.set .doNotRepair "false" }

def annotatedWorld : World :=
  Tables.world
    { nodes := [("n", annotatedNode)]
      bootcNodes := [("n", stagedNode "os@b" "os@a")] }

/-- Without Karpenter a value other than `true` is not lost: it is there before
the episode and after it. -/
theorem slot_episode_keeps_plain_value :
    annotatedWorld.Shows "n" ⟨annotatedNode, none⟩ ∧
    (stagedNode "os@b" "os@a").HoldsNothing ∧
    annotatedNode.annotations.known .doNotRepair = some "false" ∧
    ∃ assigned freed,
      (SlotAttempt.assign (Env.calm ["n"] 0) false).run "n" annotatedWorld =
        some (.ok (), assigned) ∧
      (∃ entry ∈ assigned.log, entry.action = .wrote (.assignSlot "n")) ∧
      (SlotAttempt.free (Env.calm ["n"] 0)).run "n" assigned.world =
        some (.ok (), freed) ∧
      ∃ node, freed.world.api.node "n" = some node ∧
        node.annotations.known .doNotRepair = some "false" := by
  have shown : annotatedWorld.Shows "n" ⟨annotatedNode, none⟩ :=
    ⟨rfl, rfl, rfl, rfl⟩
  refine ⟨shown, stagedNode_holdsNothing _ _, rfl, ?_⟩
  obtain ⟨written, wrote, isWorld, wroteBootcNode⟩ : ∃ written,
      (SlotAttempt.assign (Env.calm ["n"] 0) false).run "n"
        annotatedWorld = some written ∧
      written.2.world = attemptedWorld annotatedWorld
        (.assign (Env.calm ["n"] 0) false) ∧
      ∃ entry ∈ written.2.log, entry.action = .wrote (.assignSlot "n") :=
    exists_of_assigns (by decide +kernel)
  obtain ⟨assigned, completed⟩ : ∃ s,
      (SlotAttempt.assign (Env.calm ["n"] 0) false).run "n"
        annotatedWorld = some (.ok (), s) :=
    exists_of_completes (by decide +kernel)
  rw [completed, Option.some.injEq] at wrote
  subst wrote
  obtain ⟨freed, released⟩ : ∃ s,
      (SlotAttempt.free (Env.calm ["n"] 0)).run "n" assigned.world =
        some (.ok (), s) := by
    rw [show assigned.world = _ from isWorld]
    exact exists_of_completes (by decide +kernel)
  have value : ((SlotAttempt.free (Env.calm ["n"] 0)).run "n"
      (attemptedWorld annotatedWorld
        (.assign (Env.calm ["n"] 0) false))).bind
        (fun outcome => (outcome.2.world.api.node "n").map
          fun node => node.annotations.known .doNotRepair) =
      some (some "false") := by decide +kernel
  rw [← show assigned.world = _ from isWorld, released] at value
  obtain ⟨node, stored, isValue⟩ := Option.map_eq_some_iff.mp value
  exact ⟨assigned, freed, completed, wroteBootcNode, released, node, stored,
    isValue⟩

end BootcOperator
