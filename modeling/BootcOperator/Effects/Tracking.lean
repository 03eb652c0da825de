import BootcOperator.Effects.Requests

/-!
# What a pass knows

`Tracks` relates the memory of a pass to the world: the pool in memory has the
target the pass works for, and the BootcNodes in memory are exactly those the
pool controls in the API server.  The rules for the functions that do not
depend on the state of the rollout are here too.
-/

namespace BootcOperator

open Program

variable {call : Call} {name : String}

/-- The pools ask for the same. -/
structure BootcNodePool.SameTarget (p q : BootcNodePool) : Prop where
  name : p.name = q.name
  uid : p.uid = q.uid
  spec : p.spec = q.spec
  targetDigest : p.status.targetDigest = q.status.targetDigest

namespace BootcNodePool.SameTarget

variable {p q : BootcNodePool} (same : p.SameTarget q)

theorem refl (p : BootcNodePool) : p.SameTarget p :=
  ⟨rfl, rfl, rfl, rfl⟩

include same

section

variable (r : BootcNodePoolReconciler) (now : Time)

theorem desiredImage :
    r.desiredImageFromPool p = r.desiredImageFromPool q := by
  simp only [BootcNodePoolReconciler.desiredImageFromPool, same.spec,
    same.targetDigest]

theorem newBootcNode (node : Node) :
    r.newBootcNode p node = r.newBootcNode q node := by
  simp only [BootcNodePoolReconciler.newBootcNode, same.desiredImage,
    effectiveRebootPolicy, same.name, same.uid, same.spec]

theorem syncedSpec (spec : BootcNodeSpec) :
    r.syncedSpec p spec = r.syncedSpec q spec := by
  simp only [BootcNodePoolReconciler.syncedSpec, same.desiredImage,
    effectiveRebootPolicy, same.spec]

theorem isControlledBy (bn : BootcNode) :
    bn.isControlledBy p = bn.isControlledBy q := by
  simp only [BootcNode.isControlledBy, same.uid]

theorem setCondition (new : ConditionUpdate) :
    (p.setCondition now new).SameTarget q :=
  ⟨same.name, same.uid, same.spec, same.targetDigest⟩

theorem setPoolDegraded (reason message : String) :
    (setPoolDegraded now reason message p).SameTarget q := by
  unfold BootcOperator.setPoolDegraded
  dsimp only
  split_ifs
  · exact same
  · exact same.setCondition now _

theorem clearPoolDegradedReason (reason : String) :
    (clearPoolDegradedReason now reason p).SameTarget q := by
  unfold BootcOperator.clearPoolDegradedReason
  split
  · exact same.setCondition now _
  · exact same

end

end BootcNodePool.SameTarget

theorem resolveMaxUnavailable_congr
    {p q : BootcNodePool} (spec : p.spec = q.spec)
    (r : BootcNodePoolReconciler) (nodeCount : Nat) :
    r.resolveMaxUnavailable p nodeCount =
      r.resolveMaxUnavailable q nodeCount := by
  unfold BootcNodePoolReconciler.resolveMaxUnavailable isPaused
  rw [spec]

/-- Only these names occur. -/
structure World.Within (w : World) (names : List String) : Prop where
  node : ∀ name, w.api.node name ≠ none → name ∈ names
  bootcNode : ∀ name, w.api.bootcNode name ≠ none → name ∈ names
  drain : ∀ name, w.drains name ≠ none → name ∈ names

/-- Reads see all earlier writes, and a loop over a map visits every entry
once. -/
structure Env.Faithful (env : Env) (w : World) : Prop where
  fresh : env.Fresh
  nodup : ∀ loop, (env.order loop).Nodup
  covers : ∀ loop, w.Within (env.order loop)

/-- The memory of a pass agrees with the world. -/
structure Tracks (c : PassContext) (s : PassState) : Prop where
  target : s.pool.SameTarget c.pool
  owned : ∀ name,
    s.owned name =
      (s.world.api.bootcNode name).filter (·.isControlledBy c.pool)
  covered : ∀ loop name, s.owned name ≠ none → name ∈ c.env.order loop
  unhalted : s.rolloutHalted = false

namespace Tracks

variable {c : PassContext} {s : PassState} (tracks : Tracks c s)

include tracks

section

variable {bn : BootcNode}

theorem owns (owned : s.owned name = some bn) :
    Owns c s.world name bn := by
  rw [tracks.owned, Option.filter_eq_some_iff] at owned
  exact ⟨owned.1, owned.2⟩

theorem owned_of_owns (owns : Owns c s.world name bn) :
    s.owned name = some bn := by
  rw [tracks.owned, Option.filter_eq_some_iff]
  exact ⟨owns.stored, owns.controlled⟩

theorem reached (owned : s.owned name = some bn) (loop : Loop) :
    name ∈ c.env.order loop :=
  tracks.covered loop name (by simp [owned])

theorem patched
    {stored : BootcNode} (reached : ∀ loop, name ∈ c.env.order loop)
    (controlled : stored.isControlledBy c.pool = true) :
    Tracks c (s.patched call name stored) := by
  refine ⟨tracks.target, ?_, ?_, tracks.unhalted⟩
  · intro other
    by_cases same : other = name
    · subst same
      simp [PassState.patched, PassState.setOwned, PassState.perform,
        World.putBootcNode, Option.filter_some, controlled]
    · simpa [PassState.patched, PassState.setOwned, PassState.perform,
        World.putBootcNode, same] using tracks.owned other
  · intro loop other present
    by_cases same : other = name
    · subst same
      exact reached loop
    · refine tracks.covered loop other ?_
      simpa [PassState.patched, PassState.setOwned, PassState.perform,
        same] using present

/-- A deleted BootcNode leaves memory and world together. -/
theorem removed {action : Action} :
    Tracks c
      ((s.perform action (s.world.putBootcNode name none)).setOwned name
        none) := by
  refine ⟨tracks.target, ?_, ?_, tracks.unhalted⟩
  · intro other
    by_cases same : other = name
    · subst same
      simp [PassState.setOwned, PassState.perform, World.putBootcNode]
    · simpa [PassState.setOwned, PassState.perform, World.putBootcNode,
        same] using tracks.owned other
  · intro loop other present
    refine tracks.covered loop other ?_
    by_cases same : other = name
    · subst same
      simp [PassState.setOwned] at present
    · simpa [PassState.setOwned, PassState.perform, same] using present

end

end Tracks

/-- What a pass still knows at its end: the target, and which BootcNodes the
pool controls. -/
structure Recalls (c : PassContext) (s : PassState) : Prop where
  target : s.pool.SameTarget c.pool
  owned : ∀ name, s.owned name =
    (s.world.api.bootcNode name).filter (·.isControlledBy c.pool)

@[simp]
theorem PassState.patched_owned_self
    (s : PassState) (call : Call) (name : String) (stored : BootcNode) :
    (s.patched call name stored).owned name = some stored := by
  simp [PassState.patched, PassState.setOwned]

theorem PassState.patched_owned_of_ne
    (s : PassState) (call : Call) {other : String} (stored : BootcNode)
    (different : other ≠ name) :
    (s.patched call name stored).owned other = s.owned other := by
  simp [PassState.patched, PassState.setOwned, PassState.perform, different]

/-- The pass has not come to the rollout. -/
structure Undecided (s : PassState) : Prop where
  unhalted : s.rolloutHalted = false
  unresolved : s.maxUnavail = none

/-- A step that blames the spec leaves the target of the pass alone and stops
before the rollout is decided. -/
def BlamesSpec (c : PassContext) (e : ApiError) (s : PassState) : Prop :=
  e.kind = .invalidSpec → s.pool.SameTarget c.pool ∧ Undecided s

theorem BlamesSpec.tolerant (c : PassContext) : Tolerant (BlamesSpec c) := by
  intro e s routine blamed
  rw [ApiError.Routine, blamed] at routine
  simp at routine

/-- The state in which `syncMembership` is called. -/
structure Ready (c : PassContext) (s : PassState) : Prop where
  hasTarget : c.HasTarget
  target : s.pool.SameTarget c.pool
  faithful : c.env.Faithful s.world
  members : ∀ selector,
    c.reconciler.labelSelectorAsSelector c.pool.spec.nodeSelector =
      .ok selector →
    ∀ name, c.isMember name =
      ((s.world.api.node name).filter fun node => selector node.labels).isSome
  unhalted : s.rolloutHalted = false
  unresolved : s.maxUnavail = none

/-- All owned nodes are members with the image of the pass. -/
structure Targets (c : PassContext) (budget : Option Int) (s : PassState) :
    Prop extends Tracks c s where
  resolved : s.maxUnavail = budget
  targeted : ∀ name bn, s.owned name = some bn →
    bn.spec.desiredImage = c.desiredImage
  members : ∀ name, s.owned name ≠ none → c.isMember name = true

namespace Targets

variable {c : PassContext} {budget : Option Int} {s : PassState}
  (targets : Targets c budget s)

include targets

theorem ownsTargeted {bn : BootcNode} (owned : s.owned name = some bn) :
    OwnsTargeted c s.world name bn :=
  { toOwns := targets.owns owned
    targeted := targets.targeted name bn owned
    member := targets.members name (by simp [owned]) }

theorem patched
    {bn stored : BootcNode} (owned : s.owned name = some bn)
    (owners : stored.ownerReferences = bn.ownerReferences)
    (image : stored.spec.desiredImage = bn.spec.desiredImage) :
    Targets c budget (s.patched call name stored) := by
  have controlled : stored.isControlledBy c.pool = true := by
    have bnControlled := (targets.owns owned).controlled
    rwa [BootcNode.isControlledBy, BootcNode.controllerOf, owners]
  refine ⟨targets.toTracks.patched (targets.reached owned) controlled,
    targets.resolved, ?_, ?_⟩
  · intro other bn' owned'
    by_cases same : other = name
    · subst same
      rw [s.patched_owned_self, Option.some.injEq] at owned'
      rw [← owned', image]
      exact targets.targeted other bn owned
    · rw [s.patched_owned_of_ne _ _ same] at owned'
      exact targets.targeted other bn' owned'
  · intro other owned'
    by_cases same : other = name
    · exact targets.members other (by simp [same, owned])
    · rw [s.patched_owned_of_ne _ _ same] at owned'
      exact targets.members other owned'

end Targets

/-! ## Facts that work on one node leaves alone -/

/-- The states agree on the memory of the pass, on the BootcNodes, on the
drains and on every Node but one. -/
structure Alike (name : String) (s s' : PassState) : Prop where
  pool : s'.pool = s.pool
  storedPool : s'.world.api.pool = s.world.api.pool
  owned : s'.owned = s.owned
  rs : s'.rs = s.rs
  rolloutHalted : s'.rolloutHalted = s.rolloutHalted
  maxUnavail : s'.maxUnavail = s.maxUnavail
  bootcNode : s'.world.api.bootcNode = s.world.api.bootcNode
  drains : s'.world.drains = s.world.drains
  node : ∀ other, other ≠ name →
    s'.world.api.node other = s.world.api.node other

/-- A fact that neither writes to the Node nor to NodeClaims can disturb. -/
def Insensitive (name : String) (pre : PassState → Prop) : Prop :=
  ∀ s s', Alike name s s' → pre s → pre s'

theorem Alike.issued (name : String) (s : PassState) (calls : List Call) :
    Alike name s { s with issued := calls } :=
  ⟨rfl, rfl, rfl, rfl, rfl, rfl, rfl, rfl, fun _ _ => rfl⟩

theorem Alike.putNode
    (name : String) (s : PassState) (action : Action) (node : Node) :
    Alike name s (s.perform action (s.world.putNode name node)) := by
  refine ⟨rfl, rfl, rfl, rfl, rfl, rfl, rfl, rfl, fun other different => ?_⟩
  simp [PassState.perform, World.putNode, different]

theorem Alike.putNodeClaim
    (name : String) (s : PassState) (action : Action) (claimName : String)
    (claim : NodeClaim) :
    Alike name s (s.perform action (s.world.putNodeClaim claimName claim)) :=
  ⟨rfl, rfl, rfl, rfl, rfl, rfl, rfl, rfl, fun _ _ => rfl⟩

theorem Alike.note (name : String) (s : PassState) (action : Action) :
    Alike name s (s.perform action s.world) :=
  ⟨rfl, rfl, rfl, rfl, rfl, rfl, rfl, rfl, fun _ _ => rfl⟩

section

variable (c : PassContext)

theorem Alike.setOwned
    {s s' : PassState} (alike : Alike name s s') (owner : String)
    (bn : Option BootcNode) :
    Alike name (s.setOwned owner bn) (s'.setOwned owner bn) := by
  refine ⟨alike.pool, alike.storedPool, ?_, alike.rs, alike.rolloutHalted,
    alike.maxUnavail, alike.bootcNode, alike.drains, alike.node⟩
  simp only [PassState.setOwned, alike.owned]

theorem Insensitive.ignoresIssued
    {pre : PassState → Prop} (insensitive : Insensitive name pre) :
    IgnoresIssued pre :=
  fun s calls => insensitive s _ (.issued name s calls)

def IgnoresDrain (name : String) (pre : PassState → Prop) : Prop :=
  ∀ s action drain, pre s →
    pre (s.perform action (s.world.putDrain name drain))

theorem Insensitive.and
    {pre pre' : PassState → Prop} (insensitive : Insensitive name pre)
    (insensitive' : Insensitive name pre') :
    Insensitive name fun s => pre s ∧ pre' s :=
  fun s s' alike before =>
    ⟨insensitive s s' alike before.1, insensitive' s s' alike before.2⟩

theorem Insensitive.drains (name : String) (drain : Option DrainStatus) :
    Insensitive name fun s => s.world.drains name = drain :=
  fun _ _ alike before => (congrFun alike.drains name).trans before

theorem Insensitive.owned
    (name owner : String) (bn : Option BootcNode) :
    Insensitive name fun s => s.owned owner = bn :=
  fun _ _ alike before => (congrFun alike.owned owner).trans before

theorem Tracks.insensitive (name : String) :
    Insensitive name (Tracks c) := by
  intro s s' alike tracks
  refine ⟨alike.pool ▸ tracks.target, ?_, alike.owned ▸ tracks.covered,
    alike.rolloutHalted ▸ tracks.unhalted⟩
  rw [alike.owned, alike.bootcNode]
  exact tracks.owned

theorem Targets.insensitive (budget : Option Int) (name : String) :
    Insensitive name (Targets c budget) :=
  fun s s' alike targets =>
    ⟨Tracks.insensitive c name s s' alike targets.toTracks,
      alike.maxUnavail ▸ targets.resolved, alike.owned ▸ targets.targeted,
      alike.owned ▸ targets.members⟩

theorem Tracks.ignoresDrain (name : String) :
    IgnoresDrain name (Tracks c) :=
  fun _ _ _ tracks =>
    ⟨tracks.target, tracks.owned, tracks.covered, tracks.unhalted⟩

end

section Rules

variable {step : Seen → Seen → Prop} {pre : PassState → Prop}
  {exc : ApiError → PassState → Prop}

theorem follows_getKarpenterNodeClaim
    {env : Env} {node : Node} (fresh : env.Fresh) (stopped : Yields env exc) :
    (observing step).Follows pre (getKarpenterNodeClaim env call node)
      (fun result s =>
        pre s ∧ ∀ name claim, result = .found name claim →
          s.world.api.nodeClaim name = some claim) exc := by
  unfold getKarpenterNodeClaim
  refine .ite (fun _ => ?_) fun _ => .ret fun s holds => ⟨holds, by simp⟩
  refine .conseq (follows_query fresh stopped.stops) (fun _ holds => holds)
    (fun result s found => ⟨found.1, ?_⟩) fun _ _ holds => holds
  intro name claim isFound
  rw [found.2, lookupNodeClaim] at isFound
  split at isFound
  · cases isFound
  · split at isFound
    · cases isFound
    · split at isFound
      · next stored =>
          cases isFound
          exact stored
      · cases isFound

theorem follows_isKarpenterDisruptionActive
    {env : Env} {node : Node} (fresh : env.Fresh) (stopped : Tolerant exc) :
    (observing step).Follows pre (isKarpenterDisruptionActive env call node)
      (fun status s =>
        pre s ∧ ∀ name claim, status.prefetchedClaim = some (name, claim) →
          s.world.api.nodeClaim name = some claim) exc := by
  unfold isKarpenterDisruptionActive
  refine .ite (fun _ => .ret fun s holds => ⟨holds, by simp⟩) fun _ => ?_
  refine .ite (fun _ => .ret fun s holds => ⟨holds, by simp⟩) fun _ => ?_
  refine .bind (follows_getKarpenterNodeClaim fresh stopped.yields)
    fun result => ?_
  refine .ofExcept ?_ ?_
  · intro status decided s holds
    refine ⟨holds.1, ?_⟩
    intro name claim prefetched
    cases result with
    | noRef => cases decided; cases prefetched
    | crdMissing => cases decided; cases prefetched
    | absent => cases decided; cases prefetched
    | found foundName foundClaim =>
        simp only [disruptionOf] at decided
        split at decided
        · cases decided
          cases prefetched
        · split at decided
          · cases decided
          · cases decided
            cases prefetched
          · cases decided
            cases prefetched
            exact holds.2 name claim rfl
  · intro e failed s _
    refine stopped e s ?_
    cases result with
    | noRef => cases failed
    | crdMissing => cases failed
    | absent => cases failed
    | found foundName foundClaim =>
        simp only [disruptionOf] at failed
        split at failed
        · cases failed
        · split at failed
          · cases failed
            exact .inl rfl
          · cases failed
          · cases failed

end Rules

section Within

variable {w : World} {names : List String}

theorem World.Within.putNode
    (within : w.Within names) (known : name ∈ names) (node : Node) :
    (w.putNode name node).Within names := by
  refine ⟨fun other present => ?_, within.bootcNode, within.drain⟩
  rw [w.putNode_node] at present
  split_ifs at present with same
  · exact same ▸ known
  · exact within.node other present

theorem World.Within.putBootcNode
    (within : w.Within names) (known : name ∈ names)
    (bn : Option BootcNode) : (w.putBootcNode name bn).Within names := by
  refine ⟨within.node, fun other present => ?_, within.drain⟩
  rw [w.putBootcNode_bootcNode] at present
  split_ifs at present with same
  · exact same ▸ known
  · exact within.bootcNode other present

theorem World.Within.putDrain
    (within : w.Within names) (known : name ∈ names)
    (drain : Option DrainStatus) : (w.putDrain name drain).Within names := by
  refine ⟨within.node, within.bootcNode, fun other present => ?_⟩
  rw [w.putDrain_drains] at present
  split_ifs at present with same
  · exact same ▸ known
  · exact within.drain other present

theorem Effect.within
    {c : PassContext} {budget : Option Int} {action : Action} {w w' : World}
    (effect : Effect c budget action w w') {names : List String}
    (within : w.Within names) : w'.Within names := by
  have knownNode : ∀ {name node}, w.api.node name = some node →
      name ∈ names := fun stored => within.node _ (by simp [stored])
  have knownOwned : ∀ {name bn}, Owns c w name bn → name ∈ names :=
    fun owns => within.bootcNode _ (by simp [owns.stored])
  have knownDrain : ∀ {name status}, w.drains name = some status →
      name ∈ names := fun stored => within.drain _ (by simp [stored])
  cases effect with
  | updatePool _ _ _ _ _ _ => exact ⟨within.node, within.bootcNode, within.drain⟩
  | releasePool _ _ => exact ⟨within.node, within.bootcNode, within.drain⟩
  | updatePoolStatus _ _ =>
      exact ⟨within.node, within.bootcNode, within.drain⟩
  | patchNodeClaim _ _ => exact ⟨within.node, within.bootcNode, within.drain⟩
  | event => exact within
  | resolve => exact within
  | labelNode _ stored => exact within.putNode (knownNode stored) _
  | unlabelNode _ stored => exact within.putNode (knownNode stored) _
  | restoreNode _ stored _ _ => exact within.putNode (knownNode stored) _
  | removeTaint completed _ =>
      exact within.putNode (knownNode completed.present) _
  | cordonNode _ _ stored => exact within.putNode (knownNode stored) _
  | createBootcNode _ _ stored =>
      exact within.putBootcNode (knownNode stored) _
  | syncSpec _ owns => exact within.putBootcNode (knownOwned owns) _
  | deleteBootcNode owns _ _ _ => exact within.putBootcNode (knownOwned owns) _
  | markObserved owns => exact within.putBootcNode (knownOwned owns) _
  | freeSlot completed _ _ =>
      exact within.putBootcNode (knownOwned completed.toOwns) _
  | clearTaint owns => exact within.putBootcNode (knownOwned owns) _
  | assignSlot owns _ _ _ =>
      exact within.putBootcNode (knownOwned owns.toOwns) _
  | approve owns _ _ =>
      have known := knownOwned owns.toOwns
      exact (within.putDrain known _).putBootcNode known _
  | cancelDrain owns => exact within.putDrain (knownOwned owns) _
  | collectDrain stored _ _ => exact within.putDrain (knownDrain stored) _
  | reportDrain _ stored _ _ => exact within.putDrain (knownDrain stored) _
  | startDrain owns _ _ _ _ => exact within.putDrain (knownOwned owns.toOwns) _
  | stallDrain stored _ => exact within.putDrain (knownDrain stored) _

theorem Step.within
    {c : PassContext} {loud : Bool} {seen seen' : Seen}
    (step : Step c loud seen seen') (within : seen.world.Within names) :
    seen'.world.Within names := by
  cases step with
  | act _ effect => exact effect.within within
  | halt _ _ => exact within
  | resolveMaxUnavailable _ _ _ _ => exact within

end Within

end BootcOperator
