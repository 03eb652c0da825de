import BootcOperator.Controller.Requests

/-!
# Events

`internal/controller/events.go`: node transition events with their marker
annotation, pool events for persisted status changes, and the drain warnings.
The text of a note is not rendered here.
-/

namespace BootcOperator

def eventReasonImageUpdateAvailable : String := "ImageUpdateAvailable"
def eventReasonRolloutStarted : String := "RolloutStarted"
def eventReasonRolloutCompleted : String := "RolloutCompleted"
def eventReasonDrainFailed : String := "DrainFailed"
def eventReasonDrainTakingTooLong : String := "DrainTakingTooLong"

def eventActionResolveImage : String := "ResolveImage"
def eventActionRollout : String := "Rollout"
def eventActionPoolDegraded : String := "PoolDegraded"
def eventActionNodeUpdate : String := "NodeUpdate"
def eventActionDrain : String := "Drain"

def drainStallThreshold : Duration := 5 * 60 * second

/-- The earlier of two delays; none is zero. -/
def earlierRequeue (current candidate : Duration) : Duration :=
  if candidate ≤ 0 then current
  else if current ≤ 0 ∨ candidate < current then candidate
  else current

/-! ## Pool events -/

/-- The condition has just got this reason. -/
def conditionEnteredReason (previous current : Option Condition)
    (status : ConditionStatus) (reason : String) : Bool :=
  let isIn (condition : Option Condition) : Bool :=
    match condition with
    | some condition =>
        condition.status = status ∧ condition.reason = reason
    | none => false
  isIn current && !isIn previous

/-- The Degraded condition that `degradedConditionChanged` announces. -/
def degradedConditionChanged (previous current : Option Condition) :
    Option Condition :=
  match current with
  | none => none
  | some current =>
      if current.status ≠ .conditionTrue then none
      else
        match previous with
        | none => some current
        | some previous =>
            if previous.status ≠ .conditionTrue ∨
                previous.reason ≠ current.reason ∨
                previous.message ≠ current.message then
              some current
            else none

/-- `recordPoolEvents`, in the order of emission. -/
def poolEvents (pool : BootcNodePool) (previous : BootcNodePoolStatus)
    (tagTargetChanged : Bool) : List Event :=
  let event (type : EventType) (reason action : String) (note : EventNote) :
      Event :=
    { regarding := .pool pool.name
      related := none
      type := type
      reason := reason
      action := action
      note := note }
  let target := pool.status.targetDigest
  let oldUpToDate := findStatusCondition previous.conditions poolUpToDate
  let newUpToDate := findStatusCondition pool.status.conditions poolUpToDate
  let targetChanged : Bool :=
    previous.targetDigest ≠ "" ∧ previous.targetDigest ≠ target ∧ target ≠ ""
  let rolloutStarted : Bool :=
    conditionEnteredReason oldUpToDate newUpToDate .conditionFalse
        poolRolloutInProgress ||
      (targetChanged &&
        conditionEnteredReason none newUpToDate .conditionFalse
          poolRolloutInProgress)
  let rolloutCompleted : Bool :=
    match oldUpToDate, newUpToDate with
    | some old, some new =>
        old.status ≠ .conditionTrue ∧ new.status = .conditionTrue
    | _, _ => false
  (if tagTargetChanged then
    [event .normal eventReasonImageUpdateAvailable eventActionResolveImage
      (.poolImageUpdate pool.spec.imageRef target previous.targetDigest)]
  else []) ++
  (if rolloutStarted then
    [event .normal eventReasonRolloutStarted eventActionRollout
      (.poolRolloutStarted target)]
  else []) ++
  (if rolloutCompleted then
    [event .normal eventReasonRolloutCompleted eventActionRollout
      (.poolRolloutCompleted target)]
  else []) ++
  (match degradedConditionChanged
      (findStatusCondition previous.conditions poolDegraded)
      (findStatusCondition pool.status.conditions poolDegraded) with
  | some degraded =>
      [event .warning degraded.reason eventActionPoolDegraded
        (.poolDegraded degraded.message)]
  | none => [])

/-! ## Node events -/

def ConditionStatus.text : ConditionStatus → String
  | .conditionTrue => "True"
  | .conditionFalse => "False"
  | .conditionUnknown => "Unknown"

def isActiveObservation (observation : String) : Bool :=
  "False:".toList.isPrefixOf observation.toList

/-- `nodeEvent`: the observation to persist and the event to emit with it. -/
def nodeEvent (bn : BootcNode) (previousObservation : String) :
    String × Option (String × EventNote) :=
  match findStatusCondition bn.status.conditions nodeIdle with
  | none => ("", none)
  | some idle =>
      let image := bn.spec.desiredImage
      let observation := idle.status.text ++ ":" ++ idle.reason ++ ":" ++ image
      if idle.status ≠ .conditionFalse then
        if idle.reason = nodeReasonIdle ∧
            isActiveObservation previousObservation then
          (observation, some (nodeReasonIdle, .nodeIdle image))
        else (observation, none)
      else if idle.reason = nodeReasonStaging then
        (observation, some (nodeReasonStaging, .nodeStaging image))
      else if idle.reason = nodeReasonStaged then
        (observation, some (nodeReasonStaged, .nodeStaged image))
      else if idle.reason = nodeReasonRebooting then
        (observation, some (nodeReasonRebooting, .nodeRebooting image))
      else (observation, none)

namespace BootcNodePoolReconciler

open Program

def recordNodeEvent (name : String) (type : EventType)
    (reason action : String) (eventNote : EventNote) : Pass Unit := do
  let pool ← read (·.pool)
  Pass.note (.event
    { regarding := .bootcNode name
      related := some (.pool pool.name)
      type := type
      reason := reason
      action := action
      note := eventNote })

/-- The value of the annotation `last-observed-state`. -/
def observationOf (bn : BootcNode) : String :=
  (bn.annotations.known .lastObservedState).getD ""

/-- The marker write of `recordNodeEvents`; its failure does not stop the
pass. -/
def markObserved (env : Env) (name : String) (bn : BootcNode)
    (observation : String) : Pass Unit := do
  let _ ← attempt (Pass.patchBootcNode env (.markObserved name) name bn
    { bn with
      annotations := bn.annotations.set .lastObservedState observation })
  pure ()

/-- One iteration of `recordNodeEvents`: the event comes first. -/
def recordTransition (env : Env) (name : String) (bn : BootcNode) :
    Pass Unit :=
  let previous := observationOf bn
  let (observation, event) := nodeEvent bn previous
  if observation = "" ∨ previous = observation then pure ()
  else
    match event with
    | some (reason, eventNote) => do
        recordNodeEvent name .normal reason eventActionNodeUpdate eventNote
        markObserved env name bn observation
    | none => markObserved env name bn observation

/-- The events for the transitions of owned nodes. -/
def recordNodeEvents (env : Env) : Pass Unit :=
  forEach (env.order .nodeEvents) fun name => do
    match ← read fun s => s.owned name with
    | some bn => recordTransition env name bn
    | none => pure ()

/-- When the next drain that is not stalled yet should be looked at. -/
def nextDrainCheck (env : Env) (drains : String → Option DrainStatus) :
    Duration :=
  (env.order .drainStalls).foldl
    (fun next name =>
      match drains name with
      | none => next
      | some status =>
          if status.isStalled then next
          else
            earlierRequeue next
              (drainStallThreshold - (env.now - status.startTime))) 0

/-- One iteration of the first loop of `recordDrainStalls`: mark a drain that
has crossed the threshold, and return it when the pass owns its node. -/
def markStall (env : Env) (name : String) : Pass (List String) := do
  match ← read fun s => s.world.drains name with
  | none => pure []
  | some status =>
      if status.isStalled ∨
          0 < drainStallThreshold - (env.now - status.startTime) then
        pure []
      else do
        update fun s =>
          s.perform (.stallDrain name)
            (s.world.putDrain name (some { status with isStalled := true }))
        let owned ← read fun s => s.owned name
        pure (if owned.isSome then [name] else [])

/-- Warns once of each drain that takes too long. -/
def recordDrainStalls (env : Env) : Pass Duration := do
  let drains ← read fun s => s.world.drains
  let stalledNodes ← gather (env.order .drainStalls) (markStall env)
  forEach stalledNodes fun name =>
    recordNodeEvent name .warning eventReasonDrainTakingTooLong
      eventActionDrain (.drainStalled drainStallThreshold)
  pure (nextDrainCheck env drains)

end BootcNodePoolReconciler

end BootcOperator
