import BootcOperator.Api.Constants
import BootcOperator.Image.Digest

/-!
# The controller's view of a node

`classifyNode` in `internal/controller/rollout.go`: the controller reads the
Degraded condition, the booted image and the Idle condition that the daemon
reported, in this order.
-/

namespace BootcOperator

/-- How far a node is with its image. -/
inductive NodeState where
  | upToDate
  | pending
  | staging
  | staged
  | rebooting
  | degraded
  deriving DecidableEq, Repr

/-- The state that an `Idle=False` condition with this reason stands for. -/
def activeState (reason : String) : NodeState :=
  if reason = nodeReasonStaging then .staging
  else if reason = nodeReasonStaged then .staged
  else if reason = nodeReasonRebooting then .rebooting
  else .pending

/-- How far a node is in the update cycle when it does not run the desired
image. -/
def updateProgress (conditions : List Condition) : NodeState :=
  if isStatusConditionFalse conditions nodeIdle then
    match findStatusCondition conditions nodeIdle with
    | some idle => activeState idle.reason
    | none => .pending
  else .pending

def classifyNode (lib : ReferenceLibrary) (bn : BootcNode) :
    Except String NodeState :=
  if isStatusConditionTrue bn.status.conditions nodeDegraded then
    .ok .degraded
  else if bn.status.booted = none then
    .ok .pending
  else
    match lib.parseNamed bn.spec.desiredImage with
    | .error err =>
        .error ("unparseable desiredImage " ++ bn.spec.desiredImage.goQuote ++
          ": " ++ err)
    | .ok ref =>
        match ref.digest with
        | none =>
            .error ("non-digested desiredImage " ++
              bn.spec.desiredImage.goQuote)
        | some digest =>
            if infoMatchesDigest lib bn.status.booted digest then
              .ok .upToDate
            else
              .ok (updateProgress bn.status.conditions)

/-- The daemon reports the desired image as booted. -/
def reportsDesired (lib : ReferenceLibrary) (bn : BootcNode) : Bool :=
  match lib.digestOf bn.spec.desiredImage with
  | none => false
  | some digest => infoMatchesDigest lib bn.status.booted digest

section

variable (conditions : List Condition) {lib : ReferenceLibrary}
  {bn : BootcNode}

/-- A classification reads the desired image and the status only. -/
theorem classifyNode_congr
    {bn' : BootcNode} (image : bn'.spec.desiredImage = bn.spec.desiredImage)
    (status : bn'.status = bn.status) :
    classifyNode lib bn' = classifyNode lib bn := by
  simp only [classifyNode, image, status]

theorem reportsDesired_congr
    {bn' : BootcNode} (image : bn'.spec.desiredImage = bn.spec.desiredImage)
    (status : bn'.status = bn.status) :
    reportsDesired lib bn' = reportsDesired lib bn := by
  simp only [reportsDesired, image, status]

/-- Behind the Degraded check, `classifyNode` compares the booted image with
the desired digest. -/
theorem classifyNode_of_comparable
    {digest : String} (bn : BootcNode) (healthy :
      isStatusConditionTrue bn.status.conditions nodeDegraded = false)
    (booted : bn.status.booted ≠ none)
    (desired : lib.digestOf bn.spec.desiredImage = some digest) :
    classifyNode lib bn =
      if infoMatchesDigest lib bn.status.booted digest then .ok .upToDate
      else .ok (updateProgress bn.status.conditions) := by
  unfold ReferenceLibrary.digestOf at desired
  unfold classifyNode
  cases parsed : lib.parseNamed bn.spec.desiredImage with
  | error err =>
      simp [parsed] at desired
  | ok named =>
      simp only [parsed] at desired
      simp [healthy, booted, desired]

/-- How `classifyNode` comes to a state. -/
inductive Classification (lib : ReferenceLibrary) (bn : BootcNode) :
    NodeState → Prop
  | degraded :
      isStatusConditionTrue bn.status.conditions nodeDegraded = true →
      Classification lib bn .degraded
  | unbooted :
      isStatusConditionTrue bn.status.conditions nodeDegraded = false →
      bn.status.booted = none → Classification lib bn .pending
  | upToDate {digest : String} :
      isStatusConditionTrue bn.status.conditions nodeDegraded = false →
      bn.status.booted ≠ none →
      lib.digestOf bn.spec.desiredImage = some digest →
      infoMatchesDigest lib bn.status.booted digest = true →
      Classification lib bn .upToDate
  | updating {digest : String} :
      isStatusConditionTrue bn.status.conditions nodeDegraded = false →
      bn.status.booted ≠ none →
      lib.digestOf bn.spec.desiredImage = some digest →
      infoMatchesDigest lib bn.status.booted digest = false →
      Classification lib bn (updateProgress bn.status.conditions)

theorem classification_of_classifyNode
    {state : NodeState} (classified : classifyNode lib bn = .ok state) :
    Classification lib bn state := by
  unfold classifyNode at classified
  split at classified
  · next degraded =>
      cases classified
      exact .degraded degraded
  · next notDegraded =>
      have healthy : isStatusConditionTrue bn.status.conditions
          nodeDegraded = false := by simpa using notDegraded
      split at classified
      · next unbooted =>
          cases classified
          exact .unbooted healthy unbooted
      · next booted =>
          cases parsed : lib.parseNamed bn.spec.desiredImage with
          | error err => simp [parsed] at classified
          | ok named =>
              cases digested : named.digest with
              | none => simp [parsed, digested] at classified
              | some digest =>
                  have isDigest : lib.digestOf bn.spec.desiredImage =
                      some digest := by
                    simp [ReferenceLibrary.digestOf, parsed, digested]
                  simp only [parsed, digested] at classified
                  split at classified
                  · next runs =>
                      cases classified
                      exact .upToDate healthy booted isDigest runs
                  · next runsOther =>
                      cases classified
                      exact .updating healthy booted isDigest
                        (by simpa using runsOther)

theorem updateProgress_cases :
    updateProgress conditions = .pending ∨
      ∃ idle, findStatusCondition conditions nodeIdle = some idle ∧
        ((idle.reason = nodeReasonStaging ∧
            updateProgress conditions = .staging) ∨
          (idle.reason = nodeReasonStaged ∧
            updateProgress conditions = .staged) ∨
          (idle.reason = nodeReasonRebooting ∧
            updateProgress conditions = .rebooting)) := by
  unfold updateProgress
  split
  · split
    · next idle found =>
        unfold activeState
        split_ifs with staging staged rebooting
        · exact .inr ⟨idle, found, .inl ⟨staging, rfl⟩⟩
        · exact .inr ⟨idle, found, .inr (.inl ⟨staged, rfl⟩)⟩
        · exact .inr ⟨idle, found, .inr (.inr ⟨rebooting, rfl⟩)⟩
        · exact .inl rfl
    · exact .inl rfl
  · exact .inl rfl

theorem updateProgress_ne_upToDate :
    updateProgress conditions ≠ .upToDate := by
  rcases updateProgress_cases conditions with
    pending | ⟨_, _, ⟨_, state⟩ | ⟨_, state⟩ | ⟨_, state⟩⟩ <;> simp [*]

theorem updateProgress_ne_degraded :
    updateProgress conditions ≠ .degraded := by
  rcases updateProgress_cases conditions with
    pending | ⟨_, _, ⟨_, state⟩ | ⟨_, state⟩ | ⟨_, state⟩⟩ <;> simp [*]

end

section States

variable {lib : ReferenceLibrary} {bn : BootcNode}

theorem classifyNode_eq_degraded :
    classifyNode lib bn = .ok .degraded ↔
      isStatusConditionTrue bn.status.conditions nodeDegraded = true := by
  constructor
  · intro classified
    generalize isState : NodeState.degraded = state at classified
    cases classification_of_classifyNode classified with
    | degraded degraded => exact degraded
    | unbooted _ _ => cases isState
    | upToDate _ _ _ _ => cases isState
    | updating _ _ _ _ =>
        exact absurd isState.symm (updateProgress_ne_degraded _)
  · intro degraded
    unfold classifyNode
    rw [if_pos degraded]

/-- A node is up to date when it runs its desired image without a problem. -/
theorem runs_of_upToDate (classified : classifyNode lib bn = .ok .upToDate) :
    isStatusConditionTrue bn.status.conditions nodeDegraded = false ∧
      ∃ digest, lib.digestOf bn.spec.desiredImage = some digest ∧
        infoMatchesDigest lib bn.status.booted digest = true := by
  generalize isState : NodeState.upToDate = state at classified
  cases classification_of_classifyNode classified with
  | degraded _ => cases isState
  | unbooted _ _ => cases isState
  | upToDate healthy _ isDigest runs => exact ⟨healthy, _, isDigest, runs⟩
  | updating _ _ _ _ =>
      exact absurd isState.symm (updateProgress_ne_upToDate _)

/-- An updating node reports a booted image other than its desired one. -/
theorem runsOther_of_updating
    {state : NodeState} (classified : classifyNode lib bn = .ok state)
    (updating : state ≠ .degraded ∧ state ≠ .upToDate ∧ state ≠ .pending) :
    bn.status.booted ≠ none ∧
      state = updateProgress bn.status.conditions ∧
      ∃ digest, lib.digestOf bn.spec.desiredImage = some digest ∧
        infoMatchesDigest lib bn.status.booted digest = false := by
  cases classification_of_classifyNode classified with
  | degraded _ => exact absurd rfl updating.1
  | unbooted _ _ => exact absurd rfl updating.2.2
  | upToDate _ _ _ _ => exact absurd rfl updating.2.1
  | updating _ booted isDigest runsOther =>
      exact ⟨booted, rfl, _, isDigest, runsOther⟩

theorem idle_of_rebooting
    (classified : classifyNode lib bn = .ok .rebooting) :
    ∃ idle, findStatusCondition bn.status.conditions nodeIdle = some idle ∧
      idle.reason = nodeReasonRebooting := by
  obtain ⟨_, isProgress, _⟩ := runsOther_of_updating classified (by simp)
  rcases updateProgress_cases bn.status.conditions with
    state | ⟨idle, found, ⟨_, state⟩ | ⟨_, state⟩ | ⟨reason, _⟩⟩
  · exact absurd (isProgress.trans state) (by simp)
  · exact absurd (isProgress.trans state) (by simp)
  · exact absurd (isProgress.trans state) (by simp)
  · exact ⟨idle, found, reason⟩

theorem healthy_of_upToDate
    (classified : classifyNode lib bn = .ok .upToDate) :
    isStatusConditionTrue bn.status.conditions nodeDegraded = false :=
  (runs_of_upToDate classified).1

theorem reportsDesired_of_upToDate
    (classified : classifyNode lib bn = .ok .upToDate) :
    reportsDesired lib bn = true := by
  obtain ⟨_, digest, isDigest, runs⟩ := runs_of_upToDate classified
  rw [reportsDesired, isDigest]
  exact runs

theorem reportsDesired_of_staged
    (classified : classifyNode lib bn = .ok .staged) :
    reportsDesired lib bn = false := by
  obtain ⟨_, _, digest, isDigest, runsOther⟩ :=
    runsOther_of_updating classified (by simp)
  rw [reportsDesired, isDigest]
  exact runsOther

end States

end BootcOperator
