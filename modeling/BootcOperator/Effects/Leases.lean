import BootcOperator.Effects.Rollout

/-!
# Borrowed annotations

The controller sets `do-not-repair` and `do-not-disrupt` on objects that other
parties annotate as well.  A mark on the BootcNode records which of the two it
has set, so that only those are removed again.  The marks are written before
the annotations, so a mark may stand for an annotation that was never set; it
never fails to stand for one that was.
-/

namespace BootcOperator

open BootcNodePoolReconciler

/-- The keys under which a BootcNode records what was set on an object. -/
structure FenceMarks where
  repair : BootcNodeKey
  disrupt : BootcNodeKey
  distinct : repair ≠ disrupt

/-- The records about the annotations of the Node. -/
def nodeMarks : FenceMarks :=
  ⟨.ownsKarpenterDoNotRepair, .ownsKarpenterDoNotDisrupt, by decide⟩

/-- The records about the annotations of the NodeClaim. -/
def claimMarks : FenceMarks :=
  ⟨.ownsKarpenterNodeClaimDoNotRepair, .ownsKarpenterNodeClaimDoNotDisrupt,
    by decide⟩

namespace FenceMarks

variable (marks : FenceMarks)

def key : KarpenterKey → BootcNodeKey
  | .doNotRepair => marks.repair
  | .doNotDisrupt => marks.disrupt

/-- The annotations of an object once what the controller has set is taken
back. -/
def release (owner : Annotations BootcNodeKey)
    (target : Annotations KarpenterKey) : Annotations KarpenterKey :=
  removeOwnedAnnotation owner marks.disrupt .doNotDisrupt <|
    removeOwnedAnnotation owner marks.repair .doNotRepair target

/-- No annotation is recorded as the operator's. -/
def Unmarked (owner : Annotations BootcNodeKey) : Prop :=
  ∀ key, owner.has (marks.key key) = false

end FenceMarks

section Ensure

variable (ownerKey : BootcNodeKey) (targetKey : KarpenterKey)
  (owner : Annotations BootcNodeKey) (target : Annotations KarpenterKey)

theorem getD_eq_true {value : Option String} :
    value.getD "" = "true" ↔ value = some "true" := by
  cases value <;> simp

theorem ensureOwnedAnnotation_target_known (key : KarpenterKey) :
    ((owner, target) |>
        ensureOwnedAnnotation ownerKey targetKey "true").2.known key =
      if key = targetKey then some "true" else target.known key := by
  simp only [getD_eq_true, ensureOwnedAnnotation]
  split_ifs with isSet same
  · rw [same]
    exact isSet
  · rfl
  all_goals simp_all

/-- The only mark that changes is that of the annotation. -/
theorem ensureOwnedAnnotation_owner_known
    {key : BootcNodeKey} (different : key ≠ ownerKey) :
    ((owner, target) |>
        ensureOwnedAnnotation ownerKey targetKey "true").1.known key =
      owner.known key := by
  unfold ensureOwnedAnnotation
  dsimp only
  split_ifs <;> simp [different]

theorem ensureOwnedAnnotation_owner_has :
    ((owner, target) |>
        ensureOwnedAnnotation ownerKey targetKey "true").1.has ownerKey =
      (owner.has ownerKey ||
        decide (target.known targetKey ≠ some "true")) := by
  simp only [getD_eq_true, ensureOwnedAnnotation]
  split_ifs with isSet isMarked
  · simp [isSet]
  · simp [isMarked]
  · simp [Annotations.has, isSet]

end Ensure

section Fence

variable (marks : FenceMarks) (owner : Annotations BootcNodeKey)
  (target : Annotations KarpenterKey)

theorem fence_target_known (key : KarpenterKey) :
    (fence marks.repair marks.disrupt (owner, target)).2.known key =
      some "true" := by
  unfold fence
  rw [ensureOwnedAnnotation_target_known]
  cases key with
  | doNotDisrupt => rfl
  | doNotRepair => exact ensureOwnedAnnotation_target_known ..

theorem fence_owner_has (key : KarpenterKey) :
    (fence marks.repair marks.disrupt (owner, target)).1.has
        (marks.key key) =
      (owner.has (marks.key key) ||
        decide (target.known key ≠ some "true")) := by
  unfold fence
  cases key with
  | doNotRepair =>
      have kept := ensureOwnedAnnotation_owner_known marks.disrupt
        .doNotDisrupt
        ((owner, target) |>
          ensureOwnedAnnotation marks.repair .doNotRepair "true").1
        ((owner, target) |>
          ensureOwnedAnnotation marks.repair .doNotRepair "true").2 marks.distinct
      refine Eq.trans ?_
        (ensureOwnedAnnotation_owner_has marks.repair .doNotRepair owner
          target)
      exact congrArg Option.isSome kept
  | doNotDisrupt =>
      refine (ensureOwnedAnnotation_owner_has marks.disrupt .doNotDisrupt
        ((owner, target) |>
          ensureOwnedAnnotation marks.repair .doNotRepair "true").1
        ((owner, target) |>
          ensureOwnedAnnotation marks.repair .doNotRepair "true").2).trans ?_
      have mark := ensureOwnedAnnotation_owner_known marks.repair
        .doNotRepair owner target marks.distinct.symm
      have value := ensureOwnedAnnotation_target_known marks.repair
        .doNotRepair owner target .doNotDisrupt
      rw [if_neg (by decide)] at value
      rw [value]
      exact congrArg (fun known : Option String =>
        (known.isSome || decide (target.known .doNotDisrupt ≠ some "true")))
        mark

end Fence

section Release

variable (marks : FenceMarks) (owner : Annotations BootcNodeKey)
  (target : Annotations KarpenterKey)

section

variable (ownerKey : BootcNodeKey)

theorem removeOwnedAnnotation_known_self (targetKey : KarpenterKey) :
    (target |> removeOwnedAnnotation owner ownerKey targetKey).known
        targetKey =
      if owner.has ownerKey then none else target.known targetKey := by
  unfold removeOwnedAnnotation removesOwnedAnnotation
  cases isMarked : owner.has ownerKey with
  | false => simp
  | true =>
      cases value : target.known targetKey with
      | none => simp [Annotations.has, value]
      | some text => simp [Annotations.has, value]

theorem removeOwnedAnnotation_known_of_ne
    {targetKey key : KarpenterKey} (different : key ≠ targetKey) :
    (target |> removeOwnedAnnotation owner ownerKey targetKey).known key =
      target.known key := by
  unfold removeOwnedAnnotation
  split_ifs
  · simp [different]
  · rfl

theorem removeOwnedAnnotation_other (targetKey : KarpenterKey) :
    (target |> removeOwnedAnnotation owner ownerKey targetKey).other =
      target.other := by
  unfold removeOwnedAnnotation
  split_ifs <;> rfl

end

theorem release_known (key : KarpenterKey) :
    (marks.release owner target).known key =
      if owner.has (marks.key key) then none else target.known key := by
  unfold FenceMarks.release
  cases key with
  | doNotRepair =>
      rw [removeOwnedAnnotation_known_of_ne _ _ _ (by decide),
        removeOwnedAnnotation_known_self]
      rfl
  | doNotDisrupt =>
      rw [removeOwnedAnnotation_known_self,
        removeOwnedAnnotation_known_of_ne _ _ _ (by decide)]
      rfl

theorem release_other :
    (marks.release owner target).other = target.other := by
  unfold FenceMarks.release
  rw [removeOwnedAnnotation_other, removeOwnedAnnotation_other]

variable {marks owner target}

theorem release_of_unmarked (unmarked : marks.Unmarked owner) :
    marks.release owner target = target := by
  refine Annotations.eq_of_known_of_other (fun key => ?_)
    (release_other ..)
  rw [release_known, unmarked key, if_neg (by simp)]

theorem release_release :
    marks.release owner (marks.release owner target) =
      marks.release owner target := by
  refine Annotations.eq_of_known_of_other (fun key => ?_)
    (release_other ..)
  rw [release_known, release_known]
  split_ifs <;> rfl

theorem release_congr
    {owner' : Annotations BootcNodeKey}
    (same : ∀ key, owner'.has (marks.key key) = owner.has (marks.key key)) :
    marks.release owner' target = marks.release owner target := by
  refine Annotations.eq_of_known_of_other (fun key => ?_) ?_
  · rw [release_known, release_known, same]
  · rw [release_other, release_other]

end Release

/-! ## An annotation between the two -/

/-- What is left of annotations that were fenced and released: the wanted
value stays where it was already set, any other value is lost. -/
def Annotations.afterFence (original : Annotations KarpenterKey) :
    Annotations KarpenterKey :=
  { original with
    known := fun key =>
      if original.known key = some "true" then some "true" else none }

/-- The annotations of a fenced object with the marks on its BootcNode.  An
annotation that had the wanted value is not marked; every other one is, and
may or may not be set. -/
structure Leases (marks : FenceMarks) (owner : Annotations BootcNodeKey)
    (original current : Annotations KarpenterKey) : Prop where
  other : current.other = original.other
  wanted : ∀ key, original.known key = some "true" →
    owner.has (marks.key key) = false ∧ current.known key = some "true"
  unwanted : ∀ key, original.known key ≠ some "true" →
    owner.has (marks.key key) = true

namespace Leases

variable {marks : FenceMarks} {owner owner' : Annotations BootcNodeKey}
  {original current : Annotations KarpenterKey}

theorem release_eq (leases : Leases marks owner original current) :
    marks.release owner current = original.afterFence := by
  refine Annotations.eq_of_known_of_other (fun key => ?_) ?_
  · rw [release_known, Annotations.afterFence]
    by_cases isWanted : original.known key = some "true"
    · obtain ⟨unmarked, value⟩ := leases.wanted key isWanted
      simp [unmarked, value, isWanted]
    · simp [leases.unwanted key isWanted, isWanted]
  · rw [release_other]
    exact leases.other

theorem congr_owner
    (leases : Leases marks owner original current)
    (same : ∀ key, owner'.has (marks.key key) = owner.has (marks.key key)) :
    Leases marks owner' original current where
  other := leases.other
  wanted key isWanted := by
    rw [same]
    exact leases.wanted key isWanted
  unwanted key isUnwanted := by
    rw [same]
    exact leases.unwanted key isUnwanted

/-- The annotations of an object that is or is about to be fenced. -/
def Fenceable (marks : FenceMarks) (owner : Annotations BootcNodeKey)
    (original current : Annotations KarpenterKey) : Prop :=
  (marks.Unmarked owner ∧ current = original) ∨
    Leases marks owner original current

/-- The marks that fencing leaves, whether it is done for the first time or
again. -/
theorem fence_marks
    (before : Fenceable marks owner original current) (key : KarpenterKey) :
    (fence marks.repair marks.disrupt (owner, current)).1.has
      (marks.key key) = decide (original.known key ≠ some "true") := by
  rw [fence_owner_has]
  rcases before with ⟨unmarked, isOriginal⟩ | leases
  · rw [unmarked key, isOriginal, Bool.false_or]
  · by_cases isWanted : original.known key = some "true"
    · obtain ⟨isUnmarked, value⟩ := leases.wanted key isWanted
      simp [isUnmarked, value, isWanted]
    · simp [leases.unwanted key isWanted, isWanted]

theorem of_fence_marks (before : Fenceable marks owner original current) :
    Leases marks (fence marks.repair marks.disrupt (owner, current)).1
      original current where
  other := by
    rcases before with ⟨_, isOriginal⟩ | leases
    · rw [isOriginal]
    · exact leases.other
  wanted key isWanted := by
    refine ⟨by simp [fence_marks before, isWanted], ?_⟩
    rcases before with ⟨_, isOriginal⟩ | leases
    · rw [isOriginal, isWanted]
    · exact (leases.wanted key isWanted).2
  unwanted key isUnwanted := by
    simp [fence_marks before, isUnwanted]

theorem of_fence (before : Fenceable marks owner original current) :
    Leases marks (fence marks.repair marks.disrupt (owner, current)).1
      original (fence marks.repair marks.disrupt (owner, current)).2 where
  other := (fence_other ..).2.trans (of_fence_marks before).other
  wanted key isWanted :=
    ⟨((of_fence_marks before).wanted key isWanted).1,
      fence_target_known ..⟩
  unwanted := (of_fence_marks before).unwanted

end Leases

end BootcOperator
