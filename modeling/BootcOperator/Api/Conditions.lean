import BootcOperator.Api.Types

/-!
# Status conditions

The helpers of `k8s.io/apimachinery/pkg/api/meta` that both binaries use.
A condition list is searched from the front; `setStatusCondition` moves
`LastTransitionTime` exactly when the status value changes.
-/

namespace BootcOperator

/-- A `metav1.Condition` argument whose `LastTransitionTime` is left unset. -/
structure ConditionUpdate where
  type : String
  status : ConditionStatus
  reason : String
  message : String := ""
  observedGeneration : Int := 0

def findStatusCondition (conditions : List Condition) (type : String) :
    Option Condition :=
  conditions.find? fun condition => condition.type = type

def isStatusConditionPresentAndEqual
    (conditions : List Condition) (type : String)
    (status : ConditionStatus) : Bool :=
  match findStatusCondition conditions type with
  | some condition => condition.status = status
  | none => false

def isStatusConditionTrue
    (conditions : List Condition) (type : String) : Bool :=
  isStatusConditionPresentAndEqual conditions type .conditionTrue

def isStatusConditionFalse
    (conditions : List Condition) (type : String) : Bool :=
  isStatusConditionPresentAndEqual conditions type .conditionFalse

/-- The condition that is appended when there is none of its type. -/
def ConditionUpdate.create (new : ConditionUpdate) (now : Time) :
    Condition :=
  { type := new.type
    status := new.status
    reason := new.reason
    message := new.message
    observedGeneration := new.observedGeneration
    lastTransitionTime := now }

/-- The existing condition, updated in place. -/
def ConditionUpdate.apply
    (new : ConditionUpdate) (now : Time) (existing : Condition) :
    Condition :=
  { type := existing.type
    status := new.status
    reason := new.reason
    message := new.message
    observedGeneration := new.observedGeneration
    lastTransitionTime :=
      if existing.status = new.status then existing.lastTransitionTime
      else now }

/-- Whether `SetStatusCondition` takes the transition time from the clock. -/
def ConditionUpdate.transitions
    (new : ConditionUpdate) (conditions : List Condition) : Bool :=
  match findStatusCondition conditions new.type with
  | some existing => existing.status ≠ new.status
  | none => true

/-- `apimeta.SetStatusCondition` at the clock reading `now`. -/
def setStatusCondition
    (now : Time) (new : ConditionUpdate) :
    List Condition → List Condition
  | [] => [new.create now]
  | existing :: rest =>
      if existing.type = new.type then
        new.apply now existing :: rest
      else
        existing :: setStatusCondition now new rest

variable (now : Time) (new : ConditionUpdate) (conditions : List Condition)

theorem findStatusCondition_setStatusCondition :
    findStatusCondition (setStatusCondition now new conditions) new.type =
      some (match findStatusCondition conditions new.type with
        | some existing => new.apply now existing
        | none => new.create now) := by
  induction conditions with
  | nil =>
      simp [setStatusCondition, findStatusCondition,
        ConditionUpdate.create]
  | cons existing rest ih =>
      by_cases same : existing.type = new.type
      · simp [setStatusCondition, findStatusCondition, same,
          ConditionUpdate.apply]
      · simpa [setStatusCondition, findStatusCondition, same] using
          ih

theorem exists_findStatusCondition_setStatusCondition :
    ∃ condition,
      findStatusCondition (setStatusCondition now new conditions)
        new.type = some condition ∧
      condition.status = new.status ∧ condition.reason = new.reason := by
  refine ⟨_, findStatusCondition_setStatusCondition now new conditions, ?_⟩
  cases findStatusCondition conditions new.type <;> exact ⟨rfl, rfl⟩

/-- Updating one type leaves the condition of another type alone. -/
theorem findStatusCondition_setStatusCondition_of_ne
    {now : Time} {new : ConditionUpdate} {conditions : List Condition}
    {type : String} (different : type ≠ new.type) :
    findStatusCondition (setStatusCondition now new conditions) type =
      findStatusCondition conditions type := by
  induction conditions with
  | nil =>
      simp [setStatusCondition, findStatusCondition,
        ConditionUpdate.create, Ne.symm different]
  | cons existing rest ih =>
      by_cases same : existing.type = new.type
      · simp [setStatusCondition, findStatusCondition, same,
          ConditionUpdate.apply, Ne.symm different]
      · simp only [setStatusCondition, same, if_false]
        simp only [findStatusCondition, List.find?_cons] at *
        split
        · rfl
        · exact ih

theorem isStatusConditionPresentAndEqual_setStatusCondition
    (status : ConditionStatus) :
    isStatusConditionPresentAndEqual
        (setStatusCondition now new conditions) new.type status =
      decide (new.status = status) := by
  rw [isStatusConditionPresentAndEqual,
    findStatusCondition_setStatusCondition]
  cases findStatusCondition conditions new.type <;> rfl

end BootcOperator
