import BootcOperator.Effects.Confined

/-!
# The parts of a pass that leave its findings alone

A pass decides about the health of its pool from what it has in memory: the
pool itself and the buckets of unhealthy nodes.  Few statements of a pass touch
them, or the pools in the API server.  Every other part is `Quiet`: it keeps
these findings and performs only actions of a given kind.
-/

namespace BootcOperator

open Program

/-- What a pass has found out about the health of its pool, and the pools as
they are stored. -/
structure Findings where
  pool : BootcNodePool
  storedPools : String → Option BootcNodePool
  degraded : List String
  upToDate : List String
  rebootTimedOutNodes : List String

def PassState.findings (s : PassState) : Findings :=
  { pool := s.pool
    storedPools := s.world.api.pool
    degraded := s.rs.degraded
    upToDate := s.rs.upToDate
    rebootTimedOutNodes := s.rs.rebootTimedOutNodes }

/-- Only admitted actions, and the findings stay. -/
structure Quietly (admitted : Action → Bool) (s s' : PassState) : Prop where
  findings : s'.findings = s.findings
  log : ∃ done, s'.log = s.log ++ done ∧
    ∀ entry ∈ done, admitted entry.action = true

instance (admitted : Action → Bool) :
    IsPreorder PassState (Quietly admitted) where
  refl := fun s => ⟨rfl, [], by simp, by simp⟩
  trans := fun _ _ _ first second => by
    obtain ⟨before, isBefore, admittedBefore⟩ := first.log
    obtain ⟨after, isAfter, admittedAfter⟩ := second.log
    refine ⟨second.findings.trans first.findings, before ++ after, ?_, ?_⟩
    · rw [isAfter, isBefore, List.append_assoc]
    · intro entry member
      rcases List.mem_append.mp member with earlier | later
      · exact admittedBefore entry earlier
      · exact admittedAfter entry later

def Quiet {α : Type} (admitted : Action → Bool) (m : Pass α) : Prop :=
  Moves (Quietly admitted) m

section

variable {admitted : Action → Bool}

theorem Quietly.silent
    {s s' : PassState} (findings : s'.findings = s.findings)
    (log : s'.log = s.log) :
    Quietly admitted s s' :=
  ⟨findings, [], by simp [log], by simp⟩

theorem Confined.quietly
    {name : String} {s s' : PassState} (confined : Confined admitted name s s') :
    Quietly admitted s s' := by
  obtain ⟨done, isLog, allowed⟩ := confined.log
  refine ⟨?_, done, isLog, fun entry member => (allowed entry member).2⟩
  have pool : s'.pool = s.pool := congrArg Shared.pool confined.shared
  have pools : s'.world.api.pool = s.world.api.pool :=
    congrArg Shared.pools confined.shared
  have degraded : s'.rs.degraded = s.rs.degraded :=
    congrArg (fun shared => shared.buckets.degraded) confined.shared
  have upToDate : s'.rs.upToDate = s.rs.upToDate :=
    congrArg (fun shared => shared.buckets.upToDate) confined.shared
  have timedOut : s'.rs.rebootTimedOutNodes = s.rs.rebootTimedOutNodes :=
    congrArg (fun shared => shared.buckets.rebootTimedOutNodes)
      confined.shared
  simp only [PassState.findings, pool, pools, degraded, upToDate, timedOut]

theorem quiet_of_confined
    {α : Type} {name : String} {m : Pass α}
    (confined : Moves (Confined admitted name) m) : Quiet admitted m :=
  fun s => (confined s).quietly

theorem quiet_note {action : Action} (isAdmitted : admitted action = true) :
    Quiet admitted (Pass.note action) :=
  Moves.update fun s =>
    ⟨rfl, [⟨action, s.world⟩], rfl, by simpa using isAdmitted⟩

theorem quiet_sendWrite (env : Env) (call : Call) :
    Quiet admitted (Pass.sendWrite env call) :=
  quiet_of_confined (confined_sendWrite env : Moves (Confined admitted "") _)

theorem quiet_query {α : Type} (env : Env) (call : Call) (look : Cluster → α) :
    Quiet admitted (Pass.query env call look) :=
  quiet_of_confined (confined_query env look : Moves (Confined admitted "") _)

end

namespace BootcNodePoolReconciler

variable (r : BootcNodePoolReconciler) (env : Env)
variable {admitted : Action → Bool}

theorem quiet_removeBootcNode
    (admits : Admits admitted anyAction) (name : String) (bn : BootcNode) :
    Quiet admitted (removeBootcNode env name bn) :=
  quiet_of_confined (confined_removeBootcNode env admits bn)

theorem quiet_syncMatchingNode
    (admits : Admits admitted anyAction)
    (all : String → Option BootcNode) (name : String) (node : Node) :
    Quiet admitted (r.syncMatchingNode env all name node) :=
  quiet_of_confined (confined_syncMatchingNode r env admits all node)

theorem quiet_removeDeparted
    (admits : Admits admitted anyAction)
    (matching : String → Option Node) (name : String) :
    Quiet admitted (removeDeparted env matching name) :=
  quiet_of_confined (confined_removeDeparted env admits matching)

theorem quiet_listMatchingNodes (admitted : Action → Bool) :
    Quiet admitted (r.listMatchingNodes env) := by
  refine Moves.bind (Moves.read _) fun pool => ?_
  cases r.labelSelectorAsSelector pool.spec.nodeSelector with
  | error err => exact Moves.fail _
  | ok selector =>
      exact (quiet_query env _ _).mapError

theorem quiet_listAllBootcNodes (admitted : Action → Bool) :
    Quiet admitted (listAllBootcNodes env) :=
  (quiet_query env _ _).mapError

theorem quiet_recordNodeEvents :
    Quiet anyAction (recordNodeEvents env) := by
  refine Moves.forEach fun name => Moves.bind (Moves.read _) fun owned => ?_
  cases owned with
  | none => exact Moves.ret _
  | some bn => exact quiet_of_confined (confined_recordTransition env name bn)

theorem quiet_recordDrainStalls
    (admits : Admits admitted Action.keepsSlots) :
    Quiet admitted (recordDrainStalls env) := by
  refine Moves.bind (Moves.read _) fun drains => ?_
  refine Moves.bind (Moves.gather fun name =>
    quiet_of_confined (confined_markStall env admits)) fun stalled => ?_
  refine Moves.bind (Moves.forEach fun name => ?_) fun _ => Moves.ret _
  exact Moves.bind (Moves.read _) fun _ => quiet_note (admits _ rfl rfl)

theorem quiet_collectDrainResults
    (admits : Admits admitted Action.keepsTargets) :
    Quiet admitted (collectDrainResults env) :=
  Moves.forEach fun _ =>
    quiet_of_confined (confined_collectDrainResult env admits.settles)

theorem quiet_freeCompletedSlots
    (admits : Admits admitted Action.keepsTargets) :
    Quiet admitted (freeCompletedSlots env) :=
  Moves.bind (Moves.read _) fun _ => Moves.forEach fun _ =>
    quiet_of_confined (confined_freeCompletedSlot env admits.settles)

theorem quiet_processCandidate
    (admits : Admits admitted Action.keepsSlots) (name : String) :
    Quiet admitted (processCandidate env name) :=
  quiet_of_confined (confined_processCandidate env admits)

theorem quiet_assignUnslotted
    (admits : Admits admitted Action.keepsSlots)
    (availableSlots assignedSlots : Int) (names : List String) :
    Quiet admitted
      (assignUnslotted env availableSlots assignedSlots names) := by
  induction names generalizing assignedSlots with
  | nil => exact Moves.ret _
  | cons name rest ih =>
      refine Moves.ite (Moves.ret _) ?_
      exact Moves.bind (quiet_processCandidate env admits name) fun _ =>
        ih _

theorem quiet_requeueForFencedNodes :
    Quiet admitted requeueForFencedNodes := by
  refine Moves.update fun s => ?_
  split
  · exact .silent rfl rfl
  · exact refl s

theorem quiet_advanceRollout
    (admits : Admits admitted Action.keepsSlots) :
    Quiet admitted (r.advanceRollout env) := by
  refine Moves.bind (Moves.read _) fun pool => ?_
  refine Moves.bind (Moves.read _) fun rs => ?_
  refine Moves.bind (Moves.ofExcept _) fun maxUnavail => ?_
  refine Moves.bind (Moves.update fun _ => .silent rfl rfl) fun _ => ?_
  refine Moves.bind (Moves.read _) fun owned => ?_
  refine Moves.bind (Moves.forEach fun name => ?_) fun _ => ?_
  · exact Moves.bind (quiet_processCandidate env admits name) fun _ =>
      Moves.ret _
  · refine Moves.bind (quiet_assignUnslotted env admits _ _ _) fun _ => ?_
    refine Moves.bind quiet_requeueForFencedNodes fun _ => ?_
    exact Moves.forEach fun _ =>
      quiet_of_confined (confined_drainStaged env admits)

end BootcNodePoolReconciler

end BootcOperator
