import BootcOperator.Effects.Confined
import BootcOperator.Effects.Requeues

/-!
# When the rollout polls Karpenter

`driveRollout` asks to be called again after `karpenterRequeueInterval` when
it comes to a candidate that it defers or that Karpenter owns.  The candidates
it comes to depend on the slots it has assigned before, so they are listed
with the states in which it comes to them.
-/

namespace BootcOperator

open Program BootcNodePoolReconciler Soonest

variable {s s' : PassState}

abbrev ReadsOnly {α : Type} (m : Pass α) : Prop :=
  Moves (Keeping (id : PassState → PassState)) m

abbrev KeepsRollout {α : Type} (m : Pass α) : Prop :=
  Moves (Keeping PassState.rs) m

theorem ReadsOnly.keepsRollout
    {α : Type} {m : Pass α} (reads : ReadsOnly m) : KeepsRollout m :=
  fun s => congrArg PassState.rs (reads s)

theorem ReadsOnly.state_eq
    {α : Type} {m : Pass α} (reads : ReadsOnly m) {result : Except ApiError α}
    (returned : m s = (result, s')) : s' = s := by
  have same := reads s
  rw [returned] at same
  exact same

section Reads

variable (env : Env) (call : Call)

theorem readsOnly_send : ReadsOnly (Pass.send env call) := by
  unfold Pass.send
  split
  · exact Moves.ret ()
  · exact Moves.fail _

theorem readsOnly_query {α : Type} (look : Cluster → α) :
    ReadsOnly (Pass.query env call look) :=
  Moves.bind (readsOnly_send env call) fun _ => Moves.read _

theorem readsOnly_getNode (name : String) :
    ReadsOnly (Pass.getNode env call name) := by
  refine Moves.bind (readsOnly_query env call _) fun found => ?_
  cases found with
  | none => exact Moves.fail _
  | some node => exact Moves.ret node

theorem readsOnly_getKarpenterNodeClaim (node : Node) :
    ReadsOnly (getKarpenterNodeClaim env call node) :=
  Moves.ite (readsOnly_query env call _) (Moves.ret _)

theorem readsOnly_isKarpenterDisruptionActive (node : Node) :
    ReadsOnly (isKarpenterDisruptionActive env call node) := by
  refine Moves.ite (Moves.ret _) (Moves.ite (Moves.ret _) ?_)
  exact Moves.bind (readsOnly_getKarpenterNodeClaim env call node) fun _ =>
    Moves.ofExcept _

end Reads

section Requests

variable (env : Env) (call : Call)

theorem keepsRollout_sendWrite : KeepsRollout (Pass.sendWrite env call) :=
  Moves.bind (Moves.update fun _ => rfl) fun _ =>
    (readsOnly_send env call).keepsRollout

theorem keepsRollout_patchBootcNode
    (name : String) (base modified : BootcNode) :
    KeepsRollout (Pass.patchBootcNode env call name base modified) := by
  refine Moves.bind (keepsRollout_sendWrite env call) fun _ => ?_
  refine Moves.bind (Moves.read _) fun found => ?_
  cases found with
  | none => exact Moves.fail _
  | some server => exact Moves.update fun _ => rfl

theorem keepsRollout_patchNode (name : String) (node modified : Node) :
    KeepsRollout (Pass.patchNode env call name node modified) := by
  refine Moves.bind (keepsRollout_sendWrite env call) fun _ => ?_
  refine Moves.bind (Moves.read _) fun found => ?_
  cases found with
  | none => exact Moves.fail _
  | some server =>
      refine Moves.ite (Moves.fail _) ?_
      exact Moves.bind (Moves.update fun _ => rfl) fun _ => Moves.ret _

theorem keepsRollout_patchNodeClaim
    (name : String) (claim modified : NodeClaim) :
    KeepsRollout (Pass.patchNodeClaim env call name claim modified) := by
  refine Moves.bind (keepsRollout_sendWrite env call) fun _ => ?_
  refine Moves.bind (Moves.read _) fun found => ?_
  cases found with
  | none => exact Moves.fail _
  | some server => exact Moves.update fun _ => rfl

end Requests

section Nodes

variable (env : Env) (name : String)

theorem keepsRollout_restoreNodeState
    (owner : Annotations BootcNodeKey) (node : Node) :
    KeepsRollout (restoreNodeState env name owner node) := by
  refine Moves.bind (Moves.ite (keepsRollout_patchNode env _ name node
    _).mapError (Moves.ret _)) fun node' => ?_
  refine Moves.bind (Moves.mapError (Moves.ite ?_ (Moves.ret _))) fun _ =>
    Moves.ret _
  refine Moves.bind (readsOnly_getKarpenterNodeClaim env _
    _).keepsRollout.mapError
    fun result => ?_
  cases result.claim with
  | none => exact Moves.ret _
  | some found =>
      exact Moves.ite (keepsRollout_patchNodeClaim env _ _ _ _).mapError
        (Moves.ret _)

theorem keepsRollout_assignRebootSlot
    (bn : BootcNode) (node : Node)
    (prefetchedClaim : Option (String × NodeClaim)) :
    KeepsRollout (assignRebootSlot env name bn node prefetchedClaim) := by
  have fetched : KeepsRollout
      (claimToFence env name node prefetchedClaim) := by
    refine Moves.ite ?_ (Moves.ret _)
    cases prefetchedClaim with
    | some claim => exact Moves.ret _
    | none =>
        refine Moves.bind (readsOnly_getKarpenterNodeClaim env _
          node).keepsRollout.mapError fun result => ?_
        cases result with
        | found _ _ => exact Moves.ret _
        | absent => exact Moves.fail _
        | crdMissing => exact Moves.ret _
        | noRef => exact Moves.ret _
  refine Moves.bind fetched fun claim => ?_
  refine Moves.bind (Moves.ite (keepsRollout_patchBootcNode env _ name bn
    _).mapError (Moves.ret _)) fun _ => ?_
  refine Moves.bind ?_ fun _ => Moves.ite ?_ (Moves.ret _)
  · unfold fenceClaim
    split
    · exact Moves.ite (keepsRollout_patchNodeClaim env _ _ _ _).mapError
        (Moves.ret _)
    · exact Moves.ret _
  · exact Moves.bind (keepsRollout_patchNode env _ name node _).mapError
      fun _ => Moves.ret _

theorem keepsRollout_recordDrainStalls :
    KeepsRollout (recordDrainStalls env) := by
  refine Moves.bind (Moves.read _) fun drains => ?_
  refine Moves.bind (Moves.gather fun name => ?_) fun stalled => ?_
  · refine Moves.bind (Moves.read _) fun entry => ?_
    cases entry with
    | none => exact Moves.ret _
    | some status =>
        refine Moves.ite (Moves.ret _) ?_
        refine Moves.bind (Moves.update fun _ => rfl) fun _ => ?_
        exact Moves.bind (Moves.read _) fun _ => Moves.ret _
  · refine Moves.bind (Moves.forEach fun name => ?_) fun _ => Moves.ret _
    exact Moves.bind (Moves.read _) fun _ => Moves.update fun _ => rfl

theorem keepsRequeue_freeCompletedSlot :
    Moves (Keeping fun s : PassState => s.rs.requeueAfter)
      (freeCompletedSlot env name) := by
  have lift {α : Type} {m : Pass α} (keeps : KeepsRollout m) :
      Moves (Keeping fun s : PassState => s.rs.requeueAfter) m :=
    fun s => congrArg RolloutState.requeueAfter (keeps s)
  refine Moves.bind (Moves.read _) fun owned => ?_
  cases owned with
  | none => exact Moves.ret _
  | some bn =>
      refine Moves.ite ?_ (Moves.ret _)
      refine Moves.bind (lift (readsOnly_getNode env _
        name).keepsRollout.mapError) fun node => ?_
      refine Moves.ite (Moves.ret _) (Moves.ite ?_ (Moves.mapError ?_))
      · refine Moves.bind (Moves.mapError ?_) fun _ =>
          Moves.update fun _ => rfl
        refine Moves.bind (lift (keepsRollout_restoreNodeState env name _ _))
          fun _ => ?_
        exact lift (keepsRollout_patchBootcNode env _ name bn _).mapError
      · refine Moves.bind (Moves.ite ?_ (Moves.ret _)) fun _ =>
          Moves.ite ?_ (Moves.ret _)
        · exact Moves.bind (lift (keepsRollout_patchNode env _ name node
            _).mapError) fun _ => Moves.ret _
        · exact lift (keepsRollout_patchBootcNode env _ name bn _).mapError

end Nodes

/-- Karpenter is to be left alone. -/
def KarpenterDisruptionStatus.defers (status : KarpenterDisruptionStatus) :
    Bool :=
  status.claimMissing || status.active

/-- The Node and what Karpenter does with it. -/
def readDisruption (env : Env) (nodeCall claimCall : Call) (name : String)
    (s : PassState) : Option (Node × KarpenterDisruptionStatus) :=
  match (Pass.getNode env nodeCall name s).1 with
  | .error _ => none
  | .ok node =>
      match (isKarpenterDisruptionActive env claimCall node s).1 with
      | .error _ => none
      | .ok status => some (node, status)

/-- `processCandidate` asks for another look. -/
def pollsCandidate (env : Env) (name : String) (s : PassState) : Bool :=
  (s.owned name).isSome &&
    match readDisruption env (.getCandidate name) (.getCandidateClaim name)
      name s with
    | none => false
    | some (node, status) =>
        status.defers || isNodeOwnedByKarpenterNodeClaim node

/-- The drain waits for Karpenter. -/
def defersDrain (env : Env) (name : String) (s : PassState) : Bool :=
  slottedWith s.owned (fun bn => bn.spec.desiredImageState ≠ .booted) name &&
    match readDisruption env (.getDraining name) (.getDrainingClaim name)
      name s with
    | none => false
    | some (_, status) => status.defers

/-- The requeue time of the rollout once Karpenter is to be polled. -/
def pollIf (polls : Bool) (requeue : Duration) : Duration :=
  if polls then sooner requeue karpenterRequeueInterval else requeue

section

variable {env : Env} {name : String} {delays : Set Duration}
  {polls : String → PassState → Bool}

/-- What the reads have returned is what `readDisruption` finds. -/
theorem readDisruption_eq
    {nodeCall claimCall : Call} {s₁ s₂ : PassState} {node : Node}
    {status : KarpenterDisruptionStatus}
    (found : Pass.getNode env nodeCall name s = (.ok node, s₁))
    (checked : isKarpenterDisruptionActive env claimCall node s₁ =
      (.ok status, s₂)) :
    readDisruption env nodeCall claimCall name s = some (node, status) ∧
      s₂ = s := by
  have same₁ := (readsOnly_getNode env nodeCall name).state_eq found
  have same₂ := (readsOnly_isKarpenterDisruptionActive env claimCall
    node).state_eq checked
  subst same₁
  refine ⟨?_, same₂⟩
  unfold readDisruption
  rw [found]
  dsimp only
  rw [checked]

theorem requeue_of_processCandidate
    {isSlotted : Bool}
    (returned : processCandidate env name s = (.ok isSlotted, s')) :
    s'.rs.requeueAfter =
      pollIf (pollsCandidate env name s) s.rs.requeueAfter := by
  have returned := ok_of_bindRead returned
  unfold pollsCandidate
  cases isOwned : s.owned name with
  | none =>
      rw [isOwned] at returned
      cases returned
      rfl
  | some bn =>
      rw [isOwned] at returned
      obtain ⟨node, s₁, found, afterNode⟩ := ok_of_bind returned
      obtain ⟨status, s₂, checked, decided⟩ := ok_of_bind afterNode
      obtain ⟨isDisruption, rfl⟩ :=
        readDisruption_eq (ok_of_mapError found) (ok_of_mapError checked)
      rw [isDisruption]
      dsimp only [Option.isSome_some, Bool.true_and]
      by_cases deferred : status.claimMissing = true ∨ status.active = true
      · rw [if_pos deferred] at decided
        have defers : status.defers = true := by
          simpa [KarpenterDisruptionStatus.defers] using deferred
        obtain ⟨_, s₃, requeued, last⟩ := ok_of_bind decided
        cases last
        cases requeued
        simp [pollIf, defers, RolloutState.setRequeueAfter, earlierRequeue_eq]
      · rw [if_neg deferred] at decided
        have defers : status.defers = false := by
          simpa [KarpenterDisruptionStatus.defers] using deferred
        obtain ⟨_, s₃, assigned, last⟩ := ok_of_bind decided
        have kept := keepsRollout_assignRebootSlot env name bn node
          status.prefetchedClaim s₂
        rw [ok_of_mapError assigned] at kept
        have sameRollout : s₃.rs = s₂.rs := kept
        rw [defers, Bool.false_or, ← sameRollout]
        dsimp only at last
        split_ifs at last with isOwner
        · obtain ⟨_, s₄, requeued, last⟩ := ok_of_bind last
          cases last
          cases requeued
          simp [pollIf, isOwner, RolloutState.setRequeueAfter,
            earlierRequeue_eq]
        · cases last
          simp [pollIf, isOwner]

theorem requeue_of_drainStaged
    (returned : drainStaged env name s = (.ok (), s')) :
    s'.rs.requeueAfter =
      pollIf (defersDrain env name s) s.rs.requeueAfter := by
  have returned := ok_of_bindRead returned
  unfold defersDrain slottedWith
  cases isOwned : s.owned name with
  | none =>
      rw [isOwned] at returned
      cases returned
      rfl
  | some bn =>
      rw [isOwned] at returned
      dsimp only at returned ⊢
      by_cases done : bn.inRebootSlot = false ∨
          bn.spec.desiredImageState = .booted
      · rw [if_pos done] at returned
        cases returned
        have idle : (bn.inRebootSlot &&
            decide (bn.spec.desiredImageState ≠ .booted)) = false := by
          rcases done with unslotted | approved
          · simp [unslotted]
          · simp [approved]
        rw [idle]
        rfl
      · rw [if_neg done] at returned
        have waiting : (bn.inRebootSlot &&
            decide (bn.spec.desiredImageState ≠ .booted)) = true := by
          simpa using done
        obtain ⟨node, s₁, found, afterNode⟩ := ok_of_bind returned
        obtain ⟨status, s₂, checked, decided⟩ := ok_of_bind afterNode
        obtain ⟨isDisruption, rfl⟩ :=
          readDisruption_eq (ok_of_mapError found) (ok_of_mapError checked)
        rw [isDisruption, waiting]
        dsimp only [Bool.true_and]
        by_cases deferred : status.claimMissing = true ∨ status.active = true
        · rw [if_pos deferred] at decided
          have defers : status.defers = true := by
            simpa [KarpenterDisruptionStatus.defers] using deferred
          cases decided
          simp [pollIf, defers, RolloutState.setRequeueAfter,
            earlierRequeue_eq]
        · rw [if_neg deferred] at decided
          have defers : status.defers = false := by
            simpa [KarpenterDisruptionStatus.defers] using deferred
          have kept : KeepsRollout (ensureDrain env name) := by
            refine Moves.bind (Moves.read _) fun entry => ?_
            cases entry with
            | some status => exact Moves.ret _
            | none => exact Moves.update fun _ => rfl
          have sameRollout := kept s₂
          rw [decided] at sameRollout
          rw [defers, show s'.rs = s₂.rs from sameRollout]
          rfl

/-- The delay after which Karpenter is polled, under a condition. -/
def pollDelay (polls : Prop) : Set Duration :=
  {later | polls ∧ later = karpenterRequeueInterval}

theorem pollDelay_or (first second : Prop) :
    pollDelay (first ∨ second) = pollDelay first ∪ pollDelay second := by
  ext later
  simp [pollDelay, or_and_right]

theorem soonest_pollIf
    {requeue : Duration} (soonest : IsSoonest requeue delays) (polls : Bool) :
    IsSoonest (pollIf polls requeue) (delays ∪ pollDelay (polls = true)) :=
  soonest.sooner_if karpenterRequeueInterval

/-- Some node of the loop polls in the state it meets. -/
def AnyVisit (polls : String → PassState → Bool)
    (visited : List (String × PassState)) : Prop :=
  ∃ visit ∈ visited, polls visit.1 visit.2 = true

theorem anyVisit_cons
    {visit : String × PassState} {rest : List (String × PassState)} :
    AnyVisit polls (visit :: rest) ↔
      polls visit.1 visit.2 = true ∨ AnyVisit polls rest := by
  simp [AnyVisit]

theorem anyVisit_append {first second : List (String × PassState)} :
    AnyVisit polls (first ++ second) ↔
      AnyVisit polls first ∨ AnyVisit polls second := by
  simp [AnyVisit, or_and_right, exists_or]

theorem pollDelay_nil :
    pollDelay (AnyVisit polls []) = ∅ := by
  ext later
  simp [pollDelay, AnyVisit]

/-- A loop polls if one of its visits does. -/
theorem soonest_of_visits
    (polls : String → PassState → Bool) {body : String → Pass Unit}
    (each : ∀ name s s', body name s = (.ok (), s') →
      s'.rs.requeueAfter = pollIf (polls name s) s.rs.requeueAfter)
    {names : List String} (returned : forEach names body s = (.ok (), s'))
    (soonest : IsSoonest s.rs.requeueAfter delays) :
    IsSoonest s'.rs.requeueAfter
      (delays ∪ pollDelay (AnyVisit polls (visits body names s))) := by
  induction names generalizing s delays with
  | nil =>
      cases returned
      rw [visits, pollDelay_nil, Set.union_empty]
      exact soonest
  | cons name rest ih =>
      obtain ⟨_, s₁, first, later⟩ := ok_of_bind returned
      have next := soonest_pollIf soonest (polls name s)
      rw [← each _ _ _ first] at next
      have reached : (body name s).2 = s₁ := by rw [first]
      rw [visits, reached, anyVisit_cons, pollDelay_or, ← Set.union_assoc]
      exact ih later next

def retryCandidate (env : Env) (name : String) : Pass Unit := do
  let _ ← processCandidate env name
  pure ()

theorem requeue_of_retryCandidate
    (returned : retryCandidate env name s = (.ok (), s')) :
    s'.rs.requeueAfter =
      pollIf (pollsCandidate env name s) s.rs.requeueAfter := by
  obtain ⟨_, _, processed, last⟩ := ok_of_bind returned
  cases last
  exact requeue_of_processCandidate processed

/-- The candidates without a slot to which the loop comes, with the states in
which it does. -/
def unslottedVisits (env : Env) (availableSlots : Int) :
    Int → List String → PassState → List (String × PassState)
  | _, [], _ => []
  | assignedSlots, name :: rest, s =>
      if availableSlots ≤ assignedSlots then []
      else
        (name, s) ::
          unslottedVisits env availableSlots
            (if (processCandidate env name s).1 = .ok true then
              assignedSlots + 1
            else assignedSlots)
            rest (processCandidate env name s).2

theorem soonest_of_assignUnslotted
    {availableSlots assignedSlots : Int} {names : List String}
    (returned : assignUnslotted env availableSlots assignedSlots names s =
      (.ok (), s')) (soonest : IsSoonest s.rs.requeueAfter delays) :
    IsSoonest s'.rs.requeueAfter
      (delays ∪ pollDelay (AnyVisit (pollsCandidate env)
        (unslottedVisits env availableSlots assignedSlots names s))) := by
  induction names generalizing s delays assignedSlots with
  | nil =>
      cases returned
      rw [unslottedVisits, pollDelay_nil, Set.union_empty]
      exact soonest
  | cons name rest ih =>
      unfold assignUnslotted at returned
      unfold unslottedVisits
      by_cases full : availableSlots ≤ assignedSlots
      · rw [if_pos full] at returned
        cases returned
        rw [if_pos full, pollDelay_nil, Set.union_empty]
        exact soonest
      · rw [if_neg full] at returned
        rw [if_neg full]
        obtain ⟨isSlotted, s₁, first, later⟩ := ok_of_bind returned
        have next := soonest_pollIf soonest (pollsCandidate env name s)
        rw [← requeue_of_processCandidate first] at next
        rw [first, anyVisit_cons, pollDelay_or, ← Set.union_assoc]
        simp only [Except.ok.injEq]
        exact ih later next

end

/-! ## The rollout -/

/-- How `driveRollout` comes to its candidates: the visits, and the state
behind them. -/
structure CandidateRun where
  visited : List (String × PassState)
  after : PassState

/-- The two loops over the candidates, for a value of `maxUnavailable`. -/
def candidateRun (env : Env) (maxUnavail : Int) (s : PassState) :
    CandidateRun :=
  let start := { s with maxUnavail := some maxUnavail }
  let (slotted, unslotted) := partitionSlottedNodes s.owned s.rs.staged
  let retried := (forEach slotted (retryCandidate env) start).2
  let availableSlots := max 0 (maxUnavail - s.rs.occupiedSlots)
  { visited :=
      visits (retryCandidate env) slotted start ++
        unslottedVisits env availableSlots 0 unslotted retried
    after := (assignUnslotted env availableSlots 0 unslotted retried).2 }

/-- Karpenter is to be polled: a candidate that was processed has been
deferred or is owned by Karpenter, a staged node carries the record of a
fence, or a drain has been deferred. -/
def PollsKarpenter (env : Env) (maxUnavail : Int) (s : PassState) : Prop :=
  let run := candidateRun env maxUnavail s
  AnyVisit (pollsCandidate env) run.visited ∨
    fenced s.rs.staged run.after.owned = true ∨
    AnyVisit (defersDrain env)
      (visits (drainStaged env) s.rs.staged
        (requeueForFencedNodes run.after).2)

theorem keepsBuckets_of_confined
    {α : Type} {admitted : Action → Bool} {name : String} {m : Pass α}
    (confined : Moves (Confined admitted name) m) :
    Moves (Keeping fun s : PassState => s.rs.buckets) m :=
  fun s => congrArg Shared.buckets (confined s).shared

theorem keepsBuckets_assignUnslotted
    (env : Env) (availableSlots assignedSlots : Int) (names : List String) :
    Moves (Keeping fun s : PassState => s.rs.buckets)
      (assignUnslotted env availableSlots assignedSlots names) := by
  induction names generalizing assignedSlots with
  | nil => exact Moves.ret _
  | cons name rest ih =>
      refine Moves.ite (Moves.ret _) ?_
      exact Moves.bind (keepsBuckets_of_confined (confined_processCandidate
        env (.self _))) fun _ => ih _

/-- The loops do not reclassify. -/
theorem staged_candidateRun
    (env : Env) (maxUnavail : Int) (s : PassState) :
    (candidateRun env maxUnavail s).after.rs.staged = s.rs.staged := by
  have retried : Moves (Keeping fun s : PassState => s.rs.buckets)
      (forEach (partitionSlottedNodes s.owned s.rs.staged).1
        (retryCandidate env)) :=
    Moves.forEach fun name => Moves.bind (keepsBuckets_of_confined
      (confined_processCandidate env (.self _))) fun _ => Moves.ret _
  have assigned := keepsBuckets_assignUnslotted env
    (max 0 (maxUnavail - s.rs.occupiedSlots)) 0
    (partitionSlottedNodes s.owned s.rs.staged).2
  have buckets : (candidateRun env maxUnavail s).after.rs.buckets =
      s.rs.buckets :=
    (assigned _).trans (retried { s with maxUnavail := some maxUnavail })
  have staged := congrArg RolloutState.staged buckets
  exact staged

/-- The loops as they have run. -/
theorem candidateRun_eq
    {env : Env} {maxUnavail : Int} {s₁ s₂ : PassState}
    (retried : forEach (partitionSlottedNodes s.owned s.rs.staged).1
      (retryCandidate env) { s with maxUnavail := some maxUnavail } =
        (.ok (), s₁)) (assigned : assignUnslotted env
      (max 0 (maxUnavail - s.rs.occupiedSlots)) 0
      (partitionSlottedNodes s.owned s.rs.staged).2 s₁ = (.ok (), s₂)) :
    candidateRun env maxUnavail s =
      { visited :=
          visits (retryCandidate env)
              (partitionSlottedNodes s.owned s.rs.staged).1
              { s with maxUnavail := some maxUnavail } ++
            unslottedVisits env (max 0 (maxUnavail - s.rs.occupiedSlots)) 0
              (partitionSlottedNodes s.owned s.rs.staged).2 s₁
        after := s₂ } := by
  unfold candidateRun
  dsimp only
  rw [retried]
  dsimp only
  rw [assigned]

theorem soonest_of_requeueForFencedNodes
    {delays : Set Duration} (returned : requeueForFencedNodes s = (.ok (), s'))
    (soonest : IsSoonest s.rs.requeueAfter delays) :
    IsSoonest s'.rs.requeueAfter
      (delays ∪ pollDelay (fenced s.rs.staged s.owned = true)) := by
  have isState : (if fenced s.rs.staged s.owned then
      { s with rs := s.rs.setRequeueAfter karpenterRequeueInterval }
      else s) = s' := congrArg Prod.snd returned
  have requeue : s'.rs.requeueAfter =
      pollIf (fenced s.rs.staged s.owned) s.rs.requeueAfter := by
    rw [← isState]
    unfold pollIf
    split
    · rfl
    · rfl
  rw [requeue]
  exact soonest_pollIf soonest _

theorem soonest_of_advanceRollout
    {r : BootcNodePoolReconciler} {env : Env} {delays : Set Duration}
    (returned : r.advanceRollout env s = (.ok (), s'))
    (soonest : IsSoonest s.rs.requeueAfter delays) :
    ∃ maxUnavail,
      r.resolveMaxUnavailable s.pool s.rs.nodeCount = .ok maxUnavail ∧
      IsSoonest s'.rs.requeueAfter
        (delays ∪ pollDelay (PollsKarpenter env maxUnavail s)) := by
  have afterPool := ok_of_bindRead returned
  have afterRollout := ok_of_bindRead afterPool
  obtain ⟨maxUnavail, s₀, resolved, afterBudget⟩ := ok_of_bind afterRollout
  obtain ⟨isResolved, rfl⟩ := ok_of_ofExcept resolved
  refine ⟨maxUnavail, isResolved, ?_⟩
  obtain ⟨_, s₁, isStart, afterStart⟩ := ok_of_bind afterBudget
  cases isStart
  have loops := ok_of_bindRead afterStart
  obtain ⟨_, s₂, retried, afterRetries⟩ := ok_of_bind loops
  obtain ⟨_, s₃, assigned, afterSlots⟩ := ok_of_bind afterRetries
  obtain ⟨_, s₄, requeued, drained⟩ := ok_of_bind afterSlots
  have run := candidateRun_eq (s := s₀) retried assigned
  have staged : s₃.rs.staged = s₀.rs.staged := by
    have kept := staged_candidateRun env maxUnavail s₀
    rw [run] at kept
    exact kept
  have afterRetried := soonest_of_visits (pollsCandidate env)
    (fun _ _ _ => requeue_of_retryCandidate) retried soonest
  have afterAssigned := soonest_of_assignUnslotted assigned afterRetried
  have afterFenced := soonest_of_requeueForFencedNodes requeued afterAssigned
  have afterDrained := soonest_of_visits (defersDrain env)
    (fun _ _ _ => requeue_of_drainStaged) drained afterFenced
  have reached : (requeueForFencedNodes s₃).2 = s₄ := by rw [requeued]
  rw [staged] at afterDrained
  unfold PollsKarpenter
  rw [run]
  dsimp only
  rw [anyVisit_append, reached, pollDelay_or, pollDelay_or, pollDelay_or]
  simp only [Set.union_assoc] at afterDrained ⊢
  exact afterDrained

end BootcOperator
