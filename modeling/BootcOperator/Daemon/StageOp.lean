import BootcOperator.Api.Types
import BootcOperator.Lib.Machine
import Mathlib.Logic.Function.Basic

/-!
# The stage operation of the daemon

`stageOp` in `internal/daemon/reconciler.go`: the record the reconcile worker
shares with the goroutines that run `bootc switch`.  The worker calls
`takeErr`, `reset`, `isInFlight` and `acquire`; every `acquire` is followed by
spawning one `run` call, and any number of `run` calls may be alive at once.

Each critical section of `mu` is one step of the machine, so `mu` itself does
not appear.  `runMu` is held across several steps and is part of the state.
The fields `superseded`, `published` and `sent` of an operation are history:
no step reads them.
-/

namespace BootcOperator

def stageBackoffMin : Duration := 5 * second

def stageMaxBackoffExponent : Nat := 7

/-- Where one `run` call stands. -/
inductive RunPhase where
  /-- `acquire` has returned, `run` is not yet called -/
  | acquired
  /-- `run` waits for `runMu` -/
  | spawned
  /-- `runMu` is held, the context is not yet checked -/
  | holding
  /-- the context was live, `Executor.Stage` is not yet called -/
  | checked
  /-- `Executor.Stage` is executing -/
  | staging
  /-- `Executor.Stage` has returned -/
  | stageReturned (err : Option String)
  /-- the result is stored and `mu` released, the event not yet sent -/
  | publishing
  /-- only the deferred unlock of `runMu` is left -/
  | exiting
  /-- `run` has returned -/
  | exited
  deriving DecidableEq, Repr

/-- One acquired operation with the context of its `run` call. -/
structure RunCall where
  image : String
  /-- the context was cancelled -/
  cancelled : Bool
  phase : RunPhase
  /-- a later `acquire` came before the operation published -/
  superseded : Bool
  published : Bool
  /-- how often the operation sent on `done` -/
  sent : Nat
  deriving DecidableEq, Repr

/-- `stageOp`, the `run` calls that use it and the `done` channel. -/
structure StageOp where
  image : String
  /-- the operation whose context `cancel` cancels -/
  cancel : Option Nat
  err : Option String
  retries : Nat
  /-- the operation that holds `runMu` -/
  runMu : Option Nat
  /-- events waiting in `done`, which has capacity one -/
  done : Nat
  /-- the acquired operations are those below `count` -/
  count : Nat
  runs : Nat → RunCall

namespace StageOp

/-- The call that `acquire` prepares. -/
def acquiredRun (image : String) : RunCall :=
  { image := image
    cancelled := false
    phase := .acquired
    superseded := false
    published := false
    sent := 0 }

/-- No stage has been asked for. -/
def initial : StageOp :=
  { image := ""
    cancel := none
    err := none
    retries := 0
    runMu := none
    done := 0
    count := 0
    runs := fun _ => acquiredRun "" }

/-- The pending error, counted as a failure. -/
def takeErr (s : StageOp) : Option String × StageOp :=
  let retries :=
    if s.err.isSome ∧ s.retries < stageMaxBackoffExponent then
      s.retries + 1
    else
      s.retries
  (s.err, { s with err := none, retries := retries })

/-- `stageBackoffMin << (retries - 1)`; a negative shift count panics, which
is `none`. -/
def backoff (s : StageOp) : Option Duration :=
  if s.retries = 0 then none
  else some (stageBackoffMin * 2 ^ (s.retries - 1))

def isInFlight (s : StageOp) (image : String) : Bool :=
  s.image = image

/-- Cancel the context of operation `i` and note which operations a new
`acquire` supersedes. -/
def supersede (cancelled : Option Nat) (i : Nat) (run : RunCall) : RunCall :=
  { run with
    cancelled := run.cancelled || (cancelled == some i)
    superseded := run.superseded || !run.published }

/-- A new stage supersedes the one in flight. -/
def acquire (s : StageOp) (image : String) : StageOp :=
  { s with
    image := image
    cancel := some s.count
    err := none
    retries := if s.cancel.isSome then 0 else s.retries
    count := s.count + 1
    runs := fun i =>
      if i = s.count then acquiredRun image
      else supersede s.cancel i (s.runs i) }

def reset (s : StageOp) : StageOp :=
  { s with retries := 0 }

def setRun (s : StageOp) (i : Nat) (run : RunCall) : StageOp :=
  { s with runs := Function.update s.runs i run }

def setPhase (s : StageOp) (i : Nat) (phase : RunPhase) : StageOp :=
  s.setRun i { s.runs i with phase := phase }

/-- The critical section of `run` after `Executor.Stage` returned `err`. -/
def publish (s : StageOp) (i : Nat) (err : Option String) : StageOp :=
  if (s.runs i).cancelled then
    s.setPhase i .exiting
  else
    { s.setRun i
        { s.runs i with phase := .publishing, published := true } with
      err := if err.isSome then err else s.err
      image := ""
      cancel := none }

/-- One atomic section of the worker or of a `run` call. -/
inductive Action where
  | takeErr
  | reset
  | isInFlight (image : String)
  | acquire (image : String)
  | spawn (i : Nat)
  | lockRun (i : Nat)
  | checkContext (i : Nat)
  | startStage (i : Nat)
  | stageReturns (i : Nat) (err : Option String)
  | publish (i : Nat)
  | send (i : Nat)
  | unlockRun (i : Nat)
  | receive
  deriving DecidableEq, Repr

/-- The `run` call that moves. -/
def Action.runOf : Action → Option Nat
  | .lockRun i | .checkContext i | .startStage i | .stageReturns i _
  | .publish i | .send i | .unlockRun i => some i
  | _ => none

def step (s : StageOp) : Action → Option StageOp
  | .takeErr => some s.takeErr.2
  | .reset => some s.reset
  | .isInFlight _ => some s
  | .acquire image => some (s.acquire image)
  | .spawn i =>
      if i < s.count ∧ (s.runs i).phase = .acquired then
        some (s.setPhase i .spawned)
      else none
  | .lockRun i =>
      if i < s.count ∧ (s.runs i).phase = .spawned ∧ s.runMu = none then
        some { s.setPhase i .holding with runMu := some i }
      else none
  | .checkContext i =>
      if i < s.count ∧ (s.runs i).phase = .holding then
        some (s.setPhase i
          (if (s.runs i).cancelled then .exiting else .checked))
      else none
  | .startStage i =>
      if i < s.count ∧ (s.runs i).phase = .checked then
        some (s.setPhase i .staging)
      else none
  | .stageReturns i err =>
      if i < s.count ∧ (s.runs i).phase = .staging then
        some (s.setPhase i (.stageReturned err))
      else none
  | .publish i =>
      match (s.runs i).phase with
      | .stageReturned err =>
          if i < s.count then some (s.publish i err) else none
      | _ => none
  | .send i =>
      if i < s.count ∧ (s.runs i).phase = .publishing ∧ s.done = 0 then
        some { s.setRun i
            { s.runs i with
              phase := .exiting
              sent := (s.runs i).sent + 1 } with
          done := 1 }
      else none
  | .unlockRun i =>
      if i < s.count ∧ (s.runs i).phase = .exiting then
        some { s.setPhase i .exited with runMu := none }
      else none
  | .receive =>
      if 0 < s.done then some { s with done := s.done - 1 } else none

def machine : Machine StageOp Action :=
  ⟨step⟩

end StageOp

end BootcOperator
