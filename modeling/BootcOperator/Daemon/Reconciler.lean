import BootcOperator.Api.Constants
import BootcOperator.Daemon.StageOp
import BootcOperator.Image.Digest

/-!
# The daemon's reconciler

`BootcNodeReconciler` in `internal/daemon/reconciler.go`.  One worker runs
`Reconcile`; the `run` calls of earlier stage operations go on beside it.
Whatever they do between two critical sections of the worker is an input of
the model, `ReconcileInput.gap`.

The answers of the API server, of the status watcher and of the executor are
inputs as well, so that each of them may fail on its own.
-/

namespace BootcOperator

/-- The places where the worker waits for `mu`, and its return. -/
inductive LockPoint where
  | reset
  | takeErr
  | backoff
  | isInFlight
  | acquire
  | atReturn
  deriving DecidableEq, Repr

/-- The surroundings of one `Reconcile`. -/
structure ReconcileInput where
  /-- `req.Name` -/
  request : String
  now : Time
  /-- a failure of `Get` other than NotFound -/
  getError : Option String
  /-- the answer of `StatusWatcher.GetStatus` -/
  status : Except String HostStatus
  /-- the answer of `APIReader.Get` for the pull secret -/
  secret : Except String Secret
  /-- a failure of `writeAuthFile` -/
  writeAuthError : Option String
  /-- a failure of the status patch -/
  patchError : Option String
  /-- a failure of `Executor.Reboot` or `Executor.ApplyUpdate` -/
  rebootError : Option String
  /-- what the `run` calls do before each critical section -/
  gap : LockPoint → List StageOp.Action

/-- The reconciler with the host's auth file, which only it writes. -/
structure BootcNodeReconciler where
  nodeName : String
  inflight : StageOp
  rebootIssued : Bool
  authFile : Option String

/-- The next step towards the desired image. -/
inductive UpdateAction where
  | stage
  | awaitStage
  | awaitBooted
  | reboot
  deriving DecidableEq, Repr

/-- `reconcileResult` -/
structure ReconcileResult where
  requeueAfter : Duration := 0
  degradedMsg : String := ""
  needsReboot : Bool := false
  softReboot : Bool := false
  deriving DecidableEq, Repr

/-- Where the inner reconcile returns. -/
inductive ReconcileExit where
  | degraded
  | desiredBooted
  | action (action : UpdateAction)
  deriving DecidableEq, Repr

def ReconcileExit.isAction : ReconcileExit → Bool
  | .action _ => true
  | _ => false

/-- What `reconcileBootcNode` returns and leaves behind. -/
structure BootcNodeOutcome where
  exit : ReconcileExit
  result : ReconcileResult
  error : Option String
  bootcNode : BootcNode
  reconciler : BootcNodeReconciler

/-- The two commands that reboot the host. -/
inductive RebootCommand where
  | reboot
  | applyUpdate
  deriving DecidableEq, Repr

/-- What a call of `Reconcile` returns and leaves. -/
structure ReconcileOutcome where
  result : Except String Duration
  reconciler : BootcNodeReconciler
  /-- the BootcNode in the API server afterwards -/
  bootcNode : Option BootcNode
  /-- the inner outcome, once its status is the persisted one -/
  persisted : Option BootcNodeOutcome := none
  /-- the status was written -/
  patched : Bool := false
  command : Option RebootCommand := none

def convertBootEntry (entry : Option BootEntry) : Option ImageInfo :=
  match entry with
  | none => none
  | some entry =>
      match entry.image with
      | none => none
      | some img =>
          some
            { image := img.image
              imageDigest := img.imageDigest
              version := img.version.getD ""
              timestamp := img.timestamp
              architecture := img.architecture
              softRebootCapable := entry.softRebootCapable
              incompatible := entry.incompatible }

/-- Some entry comes with the build time of its image. -/
def HostStatus.hasTimestamp (host : HostStatus) : Bool :=
  [host.booted, host.staged, host.rollback].any fun entry =>
    ((convertBootEntry entry).bind (·.timestamp)).isSome

/-- Steps of `run` calls between two steps of the worker. -/
def StageOp.interleave (s : StageOp) (actions : List StageOp.Action) :
    StageOp :=
  actions.foldl
    (fun s a =>
      if a.runOf.isSome ∨ a = .receive then (s.step a).getD s else s) s

namespace BootcNodeReconciler

def setConditions (bn : BootcNode) (now : Time) (new : ConditionUpdate) :
    BootcNode :=
  { bn with
    status :=
      { bn.status with
        conditions := setStatusCondition now new bn.status.conditions } }

/-- The `Idle=True` condition every `Reconcile` starts from. -/
def idleUpdate (generation : Int) : ConditionUpdate :=
  { type := nodeIdle
    status := .conditionTrue
    reason := nodeReasonIdle
    observedGeneration := generation }

/-- `Idle=False` with the reason of the performed action. -/
def activeUpdate (generation : Int) (reason : String) : ConditionUpdate :=
  { type := nodeIdle
    status := .conditionFalse
    reason := reason
    observedGeneration := generation }

/-- The `Degraded` condition of a reconcile with this message. -/
def degradedUpdate (generation : Int) (degradedMsg : String) :
    ConditionUpdate :=
  { type := nodeDegraded
    status :=
      if degradedMsg ≠ "" then .conditionTrue else .conditionFalse
    reason :=
      if degradedMsg ≠ "" then nodeReasonError else nodeReasonHealthy
    message := degradedMsg
    observedGeneration := generation }

def setIdle (bn : BootcNode) (now : Time) : BootcNode :=
  setConditions bn now (idleUpdate bn.generation)

def setActive (bn : BootcNode) (now : Time) (reason : String) : BootcNode :=
  setConditions bn now (activeUpdate bn.generation reason)

def setDegraded (bn : BootcNode) (now : Time) (degradedMsg : String) :
    BootcNode :=
  setConditions bn now (degradedUpdate bn.generation degradedMsg)

/-- The status as `bootc status` gives it. -/
def reportHost (host : HostStatus) (bn : BootcNode) : BootcNode :=
  { bn with
    status :=
      { bn.status with
        booted := convertBootEntry host.booted
        staged := convertBootEntry host.staged
        rollback := convertBootEntry host.rollback } }

def populateBootcFields
    (status : Except String HostStatus) (bn : BootcNode) :
    Except String BootcNode :=
  match status with
  | .error err => .error ("getting bootc status: " ++ err)
  | .ok host => .ok (reportHost host bn)

def classifyAction (lib : ReferenceLibrary) (inflight : StageOp)
    (bn : BootcNode) (desiredDigest desiredImage : String) : UpdateAction :=
  let alreadyStaged := infoMatchesDigest lib bn.status.staged desiredDigest
  if ¬ alreadyStaged then
    if inflight.isInFlight desiredImage then .awaitStage else .stage
  else if bn.spec.desiredImageState ≠ .booted then
    .awaitBooted
  else
    .reboot

/-- The auth file after `syncPullSecret`; every failure leaves it alone. -/
def syncPullSecret (input : ReconcileInput) (bn : BootcNode)
    (authFile : Option String) : Option String :=
  match bn.spec.pullSecretRef with
  | none => authFile
  | some _ =>
      match input.secret with
      | .error _ => authFile
      | .ok secret =>
          match secret.data.lookup dockerConfigJsonKey with
          | none => authFile
          | some data =>
              if input.writeAuthError.isSome then authFile else some data

/-- The reason that is reported with the action. -/
def reasonOf : UpdateAction → String
  | .stage | .awaitStage => nodeReasonStaging
  | .reboot => nodeReasonRebooting
  | .awaitBooted => nodeReasonStaged

/-- The switch of `reconcileBootcNode` over the classified action. -/
def performAction (r : BootcNodeReconciler) (input : ReconcileInput)
    (bn : BootcNode) (desiredImage : String) (action : UpdateAction) :
    BootcNodeOutcome :=
  let inflight :=
    match action with
    | .stage =>
        let acquired :=
          (r.inflight.interleave (input.gap .acquire)).acquire desiredImage
        acquired.setPhase (acquired.count - 1) .spawned
    | _ => r.inflight
  { exit := .action action
    result :=
      { needsReboot := action = .reboot
        softReboot :=
          action = .reboot ∧
            bn.spec.rebootPolicy = some .allowSoftReboot }
    error := none
    bootcNode := setActive bn input.now (reasonOf action)
    reconciler := { r with inflight := inflight } }

/-- The part of `reconcileBootcNode` behind the parsed desired reference.
`none` is the panic of a negative shift in `backoff`. -/
def reconcileDesired (lib : ReferenceLibrary) (input : ReconcileInput)
    (r : BootcNodeReconciler) (bn : BootcNode)
    (desiredImage desiredDigest : String) : Option BootcNodeOutcome :=
  if infoMatchesDigest lib bn.status.booted desiredDigest then
    some
      { exit := .desiredBooted
        result := {}
        error := none
        bootcNode := bn
        reconciler :=
          { r with
            inflight :=
              (r.inflight.interleave (input.gap .reset)).reset } }
  else
    let (stageErr, taken) :=
      (r.inflight.interleave (input.gap .takeErr)).takeErr
    match stageErr with
    | some err =>
        let inflight := taken.interleave (input.gap .backoff)
        inflight.backoff.map fun delay =>
          { exit := .degraded
            result :=
              { requeueAfter := delay
                degradedMsg := "bootc stage failed: " ++ err }
            error := none
            bootcNode := bn
            reconciler := { r with inflight := inflight } }
    | none =>
        let r :=
          { r with
            inflight := taken.interleave (input.gap .isInFlight)
            authFile := syncPullSecret input bn r.authFile }
        some (r.performAction input bn desiredImage
          (classifyAction lib r.inflight bn desiredDigest desiredImage))

/-- A return that reports a problem. -/
def degradedExit (r : BootcNodeReconciler) (bn : BootcNode)
    (degradedMsg : String) (error : Option String) : BootcNodeOutcome :=
  { exit := .degraded
    result := { degradedMsg := degradedMsg }
    error := error
    bootcNode := bn
    reconciler := r }

def reconcileBootcNode (lib : ReferenceLibrary) (input : ReconcileInput)
    (r : BootcNodeReconciler) (bn : BootcNode) : Option BootcNodeOutcome :=
  match populateBootcFields input.status bn with
  | .error err =>
      let msg := "populating bootc fields: " ++ err
      some (r.degradedExit bn msg (some msg))
  | .ok bn =>
      if bn.status.booted = none then
        let msg := "bootc status has no booted entry"
        some (r.degradedExit bn msg (some msg))
      else
        match lib.parseNamed bn.spec.desiredImage with
        | .error err =>
            some (r.degradedExit bn
              ("invalid image ref " ++ bn.spec.desiredImage.goQuote ++ ": " ++
                err) none)
        | .ok desiredRef =>
            match desiredRef.digest with
            | none =>
                some (r.degradedExit bn
                  ("image ref " ++ bn.spec.desiredImage.goQuote ++
                    " has no digest") none)
            | some desiredDigest =>
                r.reconcileDesired lib input bn desiredRef.text desiredDigest

/-- The reboot at the end of `Reconcile`, after the status patch. -/
def issueReboot (input : ReconcileInput) (inner : BootcNodeOutcome)
    (outcome : ReconcileOutcome) : ReconcileOutcome :=
  if inner.result.needsReboot then
    let failure :=
      if inner.result.softReboot then "apply with soft reboot: "
      else "reboot: "
    let attempted :=
      { outcome with
        command :=
          some (if inner.result.softReboot then .applyUpdate else .reboot) }
    match input.rebootError with
    | some err => { attempted with result := .error (failure ++ err) }
    | none =>
        { attempted with
          reconciler := { attempted.reconciler with rebootIssued := true } }
  else outcome

/-- Whether the computed status holds a `metav1.Time` that was not read with
`orig`.  The times of an object that was read are local and without a
monotonic reading; a timestamp that `bootc status` prints is in UTC, and the
clock adds a monotonic reading. -/
def bringsTime (input : ReconcileInput) (orig : BootcNode)
    (inner : BootcNodeOutcome) : Bool :=
  (match input.status with
    | .ok host => host.hasTimestamp
    | .error _ => false) ||
    (idleUpdate orig.generation).transitions orig.status.conditions ||
    -- `Idle=False` comes after `Idle=True` has been set
    inner.exit.isAction ||
    (degradedUpdate orig.generation inner.result.degradedMsg).transitions
      inner.bootcNode.status.conditions

/-- `!reflect.DeepEqual(bn.Status, orig.Status)`: it compares how a
`metav1.Time` is represented, not only the instant. -/
def statusChanged (input : ReconcileInput) (orig : BootcNode)
    (inner : BootcNodeOutcome) (bn : BootcNode) : Bool :=
  decide (bn.status ≠ orig.status) || bringsTime input orig inner

/-- `Reconcile` once the BootcNode `orig` has been read. -/
def reconcileFound (lib : ReferenceLibrary) (input : ReconcileInput)
    (r : BootcNodeReconciler) (orig : BootcNode) : ReconcileOutcome :=
  let bn :=
    { orig with
      status :=
        { orig.status with observedGeneration := orig.generation } }
  match r.reconcileBootcNode lib input (setIdle bn input.now) with
  | none =>
      { result := .error "panic: negative shift amount"
        reconciler := r
        bootcNode := some orig }
  | some inner =>
      let bn := setDegraded inner.bootcNode input.now inner.result.degradedMsg
      let returned :=
        match inner.error with
        | some err => Except.error err
        | none => Except.ok inner.result.requeueAfter
      let reconciler :=
        { inner.reconciler with
          inflight :=
            inner.reconciler.inflight.interleave (input.gap .atReturn) }
      let persisted : ReconcileOutcome :=
        { result := returned
          reconciler := reconciler
          bootcNode := some { orig with status := bn.status }
          persisted := some inner
          patched := statusChanged input orig inner bn }
      match input.patchError with
      | some err =>
          if statusChanged input orig inner bn then
            { result := .error ("patching BootcNode status: " ++ err)
              reconciler := reconciler
              bootcNode := some orig }
          else issueReboot input inner persisted
      | none => issueReboot input inner persisted

/-- `Reconcile`, with the BootcNode the API server holds under the node's
name. -/
def reconcile (lib : ReferenceLibrary) (input : ReconcileInput)
    (r : BootcNodeReconciler) (stored : Option BootcNode) :
    ReconcileOutcome :=
  let skipped : ReconcileOutcome :=
    { result := .ok 0, reconciler := r, bootcNode := stored }
  if input.request ≠ r.nodeName then skipped
  else if r.rebootIssued then skipped
  else
    match input.getError with
    | some err =>
        { skipped with result := .error ("fetching BootcNode: " ++ err) }
    | none =>
        match stored with
        | none => skipped
        | some orig => r.reconcileFound lib input orig

end BootcNodeReconciler

end BootcOperator
