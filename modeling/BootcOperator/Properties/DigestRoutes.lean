import BootcOperator.Effects.Confined
import BootcOperator.Effects.Diagnosis
import BootcOperator.Properties.Provenance

/-!
# The routes of the target digest

The digest goes from the reference or the resolver into the status of the
pool, from there together with the trimmed name into the spec of every
BootcNode, and out of the spec again when a node is classified.
-/

namespace BootcOperator

open Program BootcNodePoolReconciler

/-- The library accepts every name it has parsed with every valid digest, and
the digests it finds are valid. -/
structure AcceptsDigests (lib : ReferenceLibrary) (Valid : String → Prop) :
    Prop where
  accepts : ∀ {text : String} {named : Named} {digest : String},
    lib.parseNamed text = .ok named → Valid digest →
      ∃ ref, lib.parseNamed (named.trimmed ++ "@" ++ digest) = .ok ref ∧
        ref.trimmed = named.trimmed ∧ ref.digest = some digest
  valid : ∀ {text : String} {named : Named} {digest : String},
    lib.parseNamed text = .ok named → named.digest = some digest →
      Valid digest

/-- The registry answers with valid digests only. -/
def ResolvesValid (env : Env) (Valid : String → Prop) : Prop :=
  ∀ ref secretData digest, env.resolve ref secretData = .ok digest →
    Valid digest

/-- A persisted digest is absent or valid. -/
def ValidTarget (Valid : String → Prop) (digest : String) : Prop :=
  digest = "" ∨ Valid digest

section Resolution

variable {r : BootcNodePoolReconciler} {env : Env} {Valid : String → Prop}
  {pool : BootcNodePool} {secretData : Option String}
  {resolution : Resolution}

/-- A resolution that succeeds leaves a valid digest, if the persisted one
was. -/
theorem validTarget_of_resolveTargetDigest
    (library : AcceptsDigests r.references Valid)
    (resolver : ResolvesValid env Valid)
    (persisted : ValidTarget Valid pool.status.targetDigest)
    (resolved : r.resolveTargetDigest env pool secretData = .ok resolution) :
    ValidTarget Valid resolution.pool.status.targetDigest := by
  obtain ⟨named, parsed, source⟩ := resolveTargetDigest_cases resolved
  split at source
  · rcases source with digested | answered
    · exact .inr (library.valid parsed digested)
    · exact .inr (resolver _ _ _
        (answer_of_resolveTargetDigest resolved answered))
  · rw [source]
    exact persisted

end Resolution

/-! ## From the status to the nodes and back -/

/-- The desired image of every owned BootcNode parses back to the name and the
digest, and the node is classified. -/
def RoutesAgree (lib : ReferenceLibrary) (trimmed digest : String)
    (s : PassState) : Prop :=
  ∀ name bn, s.owned name = some bn →
    (∃ ref, lib.parseNamed bn.spec.desiredImage = .ok ref ∧
      ref.trimmed = trimmed ∧ ref.digest = some digest) ∧
    ∃ state, classifyNode lib bn = .ok state

/-- A node with a digested desired image is classified. -/
theorem exists_classifyNode
    {lib : ReferenceLibrary} {bn : BootcNode} {ref : Named} {digest : String}
    (parsed : lib.parseNamed bn.spec.desiredImage = .ok ref)
    (digested : ref.digest = some digest) :
    ∃ state, classifyNode lib bn = .ok state := by
  unfold classifyNode
  rw [parsed]
  dsimp only
  rw [digested]
  dsimp only
  split_ifs
  · exact ⟨_, rfl⟩
  · exact ⟨_, rfl⟩
  · exact ⟨_, rfl⟩
  · exact ⟨_, rfl⟩

theorem unclassified_foldl_classifyInto
    {lib : ReferenceLibrary} {owned : String → Option BootcNode}
    (classified : ∀ name bn, owned name = some bn →
      ∃ state, classifyNode lib bn = .ok state)
    (names : List String) (rs : RolloutState) :
    (names.foldl (classifyInto lib owned) rs).unclassified =
      rs.unclassified := by
  induction names generalizing rs with
  | nil => rfl
  | cons name rest ih =>
      rw [List.foldl_cons, ih]
      unfold classifyInto
      cases isOwned : owned name with
      | none => rfl
      | some bn =>
          obtain ⟨state, isState⟩ := classified name bn isOwned
          dsimp only
          rw [isState]
          cases state <;> simp only [RolloutState.add] <;> split <;> rfl

theorem unclassified_applyRebootTimeouts
    (owned : String → Option BootcNode) (timeout : Duration) (now : Time)
    (rs : RolloutState) :
    (applyRebootTimeouts owned timeout now rs).unclassified =
      rs.unclassified := by
  unfold applyRebootTimeouts
  split <;> rfl

theorem unclassified_of_classifyNodes
    {r : BootcNodePoolReconciler} {env : Env} {s s' : PassState}
    (classified : ∀ name bn, s.owned name = some bn →
      ∃ state, classifyNode r.references bn = .ok state)
    (returned : r.classifyNodes env s = (.ok (), s')) :
    s'.rs.unclassified = [] := by
  unfold classifyNodes at returned
  rw [update_apply, Prod.mk.injEq] at returned
  rw [← returned.2]
  dsimp only
  rw [unclassified_applyRebootTimeouts]
  exact unclassified_foldl_classifyInto classified _ _

theorem keeps_buckets_freeCompletedSlots (env : Env) :
    Moves (Keeping fun s : PassState => s.rs.buckets)
      (freeCompletedSlots env) := by
  refine Moves.bind (Moves.read _) fun rs => Moves.forEach fun name s => ?_
  have confined : Moves (Confined Action.settles name)
      (freeCompletedSlot env name) :=
    confined_freeCompletedSlot env (.self _)
  exact congrArg Shared.buckets (confined s).shared

/-- The context of a `syncMembership` behind a resolution. -/
def BootcNodePoolReconciler.membershipContext (r : BootcNodePoolReconciler)
    (env : Env) (resolution : Resolution) (w : World) : PassContext :=
  { reconciler := r
    env := env
    request := resolution.pool.name
    pool := resolution.pool
    resolution := some resolution
    isMember := fun name =>
      match r.labelSelectorAsSelector resolution.pool.spec.nodeSelector with
      | .ok selector =>
          ((w.api.node name).filter fun node => selector node.labels).isSome
      | .error _ => false }

section Pass

variable {r : BootcNodePoolReconciler} {env : Env} {resolution : Resolution}
  {s s' : PassState}

theorem ready_of_resolution
    (target : resolution.pool.status.targetDigest ≠ "")
    (isPool : s.pool = clearRolloutReasons env.now resolution.pool)
    (faithful : env.Faithful s.world) (unhalted : s.rolloutHalted = false)
    (unresolved : s.maxUnavail = none) :
    Ready (r.membershipContext env resolution s.world) s where
  hasTarget := ⟨resolution, rfl, target⟩
  target := by
    rw [isPool]
    exact SameTarget.clearRolloutReasons (.refl _) env.now
  faithful := faithful
  members selector valid name := by
    have isSelector : r.labelSelectorAsSelector
        resolution.pool.spec.nodeSelector = .ok selector := valid
    unfold membershipContext
    dsimp only
    rw [isSelector]
  unhalted := unhalted
  unresolved := unresolved

/-- What the nodes have been told is what the status says. -/
theorem routesAgree_of_targets
    {Valid : String → Prop} {named : Named} {w : World} {budget : Option Int}
    (library : AcceptsDigests r.references Valid)
    (parsed :
      r.references.parseNamed resolution.pool.spec.imageRef = .ok named)
    (valid : Valid resolution.pool.status.targetDigest)
    (targets : Targets (r.membershipContext env resolution w) budget s) :
    RoutesAgree r.references named.trimmed
      resolution.pool.status.targetDigest s := by
  intro name bn owned
  obtain ⟨ref, isRef, trimmed, digested⟩ := library.accepts parsed valid
  have image : bn.spec.desiredImage =
      named.trimmed ++ "@" ++ resolution.pool.status.targetDigest := by
    rw [targets.targeted name bn owned, PassContext.desiredImage,
      desiredImageFromPool]
    unfold membershipContext
    dsimp only
    rw [parsed]
  rw [← image] at isRef
  exact ⟨⟨ref, isRef, trimmed, digested⟩, exists_classifyNode isRef digested⟩

end Pass

/-- The target stays the same up to the search for unhealthy slots. -/
theorem targets_of_pass
    {c : PassContext} {s s' s₁ s₂ s₃ : PassState} (ready : Ready c s)
    (synced : c.reconciler.syncMembership c.env s = (.ok (), s'))
    (recorded : recordNodeEvents c.env s' = (.ok (), s₁))
    (collected : collectDrainResults c.env s₁ = (.ok (), s₂))
    (classified : c.reconciler.classifyNodes c.env s₂ = (.ok (), s₃)) :
    Targets c none s₂ ∧ Targets c none s₃ ∧
      ∀ s₄, freeCompletedSlots c.env s₃ = (.ok (), s₄) →
        Targets c none s₄ := by
  -- The names in the world stay those that the loops visit.
  let within (seen : Seen) : Prop :=
    ∀ loop, seen.world.Within (c.env.order loop)
  have keeps : ∀ {seen seen'}, Step c false seen seen' →
      within seen → within seen' :=
    fun step kept loop => step.within (kept loop)
  obtain ⟨targets, inside⟩ :=
    (follows_syncMembership.withInvariant within keeps).returns
      ⟨ready, ready.faithful.covers⟩ synced
  have records : (regime c).Follows (Targets c none)
      (recordNodeEvents c.env) (fun _ s => Targets c none s) AnyError :=
    follows_recordNodeEvents
  obtain ⟨targets₁, inside₁⟩ :=
    (records.withInvariant within keeps).returns ⟨targets, inside⟩ recorded
  obtain ⟨targets₂, _⟩ :=
    (follows_collectDrainResults AnyError.tolerant).returns
      ⟨targets₁, inside₁ .drainResults⟩ collected
  have classifies : (regime c).Follows (Targets c none)
      (c.reconciler.classifyNodes c.env)
      (fun _ s => Rolling c none s ∧ Occupied c s) AnyError :=
    follows_classifyNodes
  obtain ⟨rolling₃, occupied₃⟩ := classifies.returns targets₂ classified
  refine ⟨targets₂, rolling₃.toTargets, fun s₄ freed => ?_⟩
  exact ((follows_freeCompletedSlots AnyError.tolerant
    ready.faithful.fresh).returns ⟨rolling₃, occupied₃⟩ freed).1.toTargets

/-- Behind a resolution that has a digest, every owned BootcNode has a desired
image that parses back to the name of the pool's reference and the digest in
its status, no node is unclassified, and unhealthy slots are looked for with
the digest by which the nodes have been classified. -/
theorem digest_routes_agree
    (r : BootcNodePoolReconciler) (env : Env) (Valid : String → Prop)
    (library : AcceptsDigests r.references Valid)
    (resolver : ResolvesValid env Valid)
    {pool : BootcNodePool} {secretData : Option String}
    {resolution : Resolution}
    (persisted : ValidTarget Valid pool.status.targetDigest)
    (resolved : r.resolveTargetDigest env pool secretData = .ok resolution)
    (target : resolution.pool.status.targetDigest ≠ "")
    {s s' : PassState}
    (isPool : s.pool = clearRolloutReasons env.now resolution.pool)
    (faithful : env.Faithful s.world) (unhalted : s.rolloutHalted = false)
    (unresolved : s.maxUnavail = none)
    (synced : r.syncMembership env s = (.ok (), s')) :
    ∃ named, r.references.parseNamed pool.spec.imageRef = .ok named ∧
      s'.pool.status.targetDigest = resolution.pool.status.targetDigest ∧
      Valid resolution.pool.status.targetDigest ∧
      RoutesAgree r.references named.trimmed s'.pool.status.targetDigest s' ∧
      ∀ s₁ s₂ s₃, recordNodeEvents env s' = (.ok (), s₁) →
        collectDrainResults env s₁ = (.ok (), s₂) →
        r.classifyNodes env s₂ = (.ok (), s₃) →
        RoutesAgree r.references named.trimmed s₃.pool.status.targetDigest
          s₃ ∧ s₃.rs.unclassified = [] ∧
        ∀ s₄, freeCompletedSlots env s₃ = (.ok (), s₄) →
          RoutesAgree r.references named.trimmed s₄.pool.status.targetDigest
            s₄ ∧ s₄.rs.unclassified = [] := by
  have ready := ready_of_resolution (r := r) target isPool faithful unhalted
    unresolved
  have spec := (resolveTargetDigest_keeps resolved).2.2
  obtain ⟨named, parsed, _⟩ := resolveTargetDigest_cases resolved
  have valid : Valid resolution.pool.status.targetDigest :=
    (validTarget_of_resolveTargetDigest library resolver persisted
      resolved).resolve_left target
  have agree : ∀ {budget : Option Int} {state : PassState},
      Targets (r.membershipContext env resolution s.world) budget state →
      state.pool.status.targetDigest =
          resolution.pool.status.targetDigest ∧
        RoutesAgree r.references named.trimmed
          state.pool.status.targetDigest state := by
    intro budget state targets
    have digest : state.pool.status.targetDigest =
        resolution.pool.status.targetDigest := targets.target.targetDigest
    rw [digest]
    exact ⟨rfl,
      routesAgree_of_targets library (spec ▸ parsed) valid targets⟩
  have targets : Targets (r.membershipContext env resolution s.world) none
      s' := follows_syncMembership.returns ready synced
  refine ⟨named, parsed, (agree targets).1, valid, (agree targets).2, ?_⟩
  intro s₁ s₂ s₃ recorded collected classified
  obtain ⟨targets₂, targets₃, freed⟩ := targets_of_pass ready synced recorded
    collected classified
  have empty : s₃.rs.unclassified = [] :=
    unclassified_of_classifyNodes
      (fun name bn owned => ((agree targets₂).2 name bn owned).2) classified
  refine ⟨(agree targets₃).2, empty, fun s₄ isFreed =>
    ⟨(agree (freed s₄ isFreed)).2, ?_⟩⟩
  have buckets := keeps_buckets_freeCompletedSlots env s₃
  rw [isFreed] at buckets
  exact (congrArg RolloutState.unclassified buckets).trans empty

/-- In every run of `Reconcile`s and user edits that begins without a digest,
the persisted digests are valid. -/
theorem validTarget_of_path
    {r : BootcNodePoolReconciler} {Valid : String → Prop}
    (library : AcceptsDigests r.references Valid)
    {start s : ImageRun} {actions : List ImageAction}
    (noDigest : NoDigest start)
    (path : (imageMachine r).Path
      (fun s action => ImageStep s action ∧
        ∀ env request, action = .reconcile env request →
          ResolvesValid env Valid) start actions s) :
    TargetsSatisfy (ValidTarget Valid) s.world := by
  refine path.invariant (fun s => TargetsSatisfy (ValidTarget Valid) s.world)
    (fun {s action s'} valid meets stepped => ?_)
    fun request pool stored => .inl (noDigest request pool stored)
  cases action with
  | reconcile env request =>
      cases stepped
      refine valid.reconcile meets.1 request
        fun pool resolution stored settled => ?_
      obtain ⟨secretData, _, resolved⟩ := settle_eq_some settled
      refine validTarget_of_resolveTargetDigest library (meets.2 _ _ rfl) ?_
        resolved
      rw [targetDigest_clearPoolDegradedReason]
      exact valid request pool stored
  | edit world =>
      cases stepped
      intro request pool' stored'
      rcases meets.1 request pool' stored' with empty | ⟨pool, stored, status⟩
      · exact .inl empty
      · rw [status]
        exact valid request pool stored

/-! ## A digest that nobody resolved -/

/-- A reconciler over one repository with one tag and one digest. -/
def tagReconciler : BootcNodePoolReconciler :=
  { osReconciler with
    references := .ofTable [("os:1", "os", none), ("os@a", "os", some "a")] }

theorem acceptsDigests_tagReconciler :
    AcceptsDigests tagReconciler.references (· = "a") := by
  constructor
  · intro text named digest parsed valid
    have listed := mem_of_parseNamed parsed
    have trimmed : named.trimmed = "os" := by
      simp only [List.mem_cons, Prod.mk.injEq, List.not_mem_nil,
        or_false] at listed
      rcases listed with ⟨_, isTrimmed, _⟩ | ⟨_, isTrimmed, _⟩
      · exact isTrimmed
      · exact isTrimmed
    rw [trimmed, valid]
    exact ⟨⟨"os@a", "os", some "a"⟩, by decide, rfl, rfl⟩
  · intro text named digest parsed isDigest
    have listed := mem_of_parseNamed parsed
    rw [isDigest] at listed
    have only : text = "os@a" ∧ named.trimmed = "os" ∧ digest = "a" := by
      simpa using listed
    exact only.2.2

theorem resolvesValid_calm (names : List String) (now : Time)
    (Valid : String → Prop) : ResolvesValid (.calm names now) Valid := by
  intro ref secretData digest answer
  cases answer

/-- A pool that follows a tag, with a digest in its status and the next
resolution at time one. -/
def undueTag (digest : String) : BootcNodePool :=
  { osPool "os:1" with
    status :=
      { (osPool "os:1").status with
        targetDigest := digest
        nextTagResolutionTime := some 1 } }

/-- The state in which `syncMembership` is called for the pool, with one node
that runs digest `a`. -/
def undueStart (digest : String) : PassState :=
  { PassState.start
      { nodes := [("n1", plainNode)]
        bootcNodes := [("n1", stagedNode "os@a" "os@a")] : Tables }.world with
    pool := clearRolloutReasons 0 (undueTag digest) }

/-- The pool has got a pull secret. -/
def secretTag : BootcNodePool :=
  { undueTag "a" with
    spec := { (undueTag "a").spec with pullSecretRef := some ⟨"pull", "os"⟩ } }

/-- The API server holds an image of another digest for the node. -/
def staleStart : PassState :=
  { PassState.start
      { nodes := [("n1", plainNode)]
        bootcNodes := [("n1", stagedNode "os@b" "os@a")] : Tables }.world with
    pool := clearRolloutReasons 0 secretTag }

/-- A list from before the image of the node was changed. -/
def staleList : Env :=
  .listing ["n1"] (undueStart "a").world.api.bootcNode

/-- The pass gives the node an image that does not parse, and does not classify
it. -/
def LeavesUnclassified (env : Env) (s : PassState) (image : String) : Prop :=
  let synced := tagReconciler.syncMembership env s
  let recorded := recordNodeEvents env synced.2
  let collected := collectDrainResults env recorded.2
  synced.1 = .ok () ∧
    (synced.2.owned "n1").map (·.spec.desiredImage) = some image ∧
    (tagReconciler.references.parseNamed image).isOk = false ∧
    recorded.1 = .ok () ∧ collected.1 = .ok () ∧
    (tagReconciler.classifyNodes env collected.2).2.rs.unclassified = ["n1"]

/-- A digest in the status that is no digest is not looked at again before the
next resolution is due.  With a valid digest, a list that lags behind makes a
patch that carries only the reference to the secret, so that the image stays
what it is in the API server. -/
theorem unclassified_nodes_reachable :
    AcceptsDigests tagReconciler.references (· = "a") ∧
    ResolvesValid (.calm ["n1"] 0) (· = "a") ∧
    ResolvesValid staleList (· = "a") ∧
    ((Env.calm ["n1"] 0).Faithful (undueStart "zzz").world ∧
      (tagReconciler.resolveTargetDigest (.calm ["n1"] 0) (undueTag "zzz")
        none).toOption.map (·.pool) = some (undueTag "zzz") ∧
      LeavesUnclassified (.calm ["n1"] 0) (undueStart "zzz") "os@zzz") ∧
    (tagReconciler.resolveTargetDigest staleList secretTag
        none).toOption.map (·.pool) = some secretTag ∧
      LeavesUnclassified staleList staleStart "os@b" := by
  have resolves := resolvesValid_calm ["n1"] 0 (· = "a")
  refine ⟨acceptsDigests_tagReconciler, resolves, resolves,
    ⟨Env.faithful_calm (Tables.within_names _) (by decide), by decide, ?_⟩,
    by decide, ?_⟩ <;> unfold LeavesUnclassified <;> decide +kernel

/-- With the digest that the resolver would return, the node is classified. -/
theorem digest_routes_agree_for_tag :
    ∃ s', tagReconciler.syncMembership (.calm ["n1"] 0) (undueStart "a") =
        (.ok (), s') ∧ (s'.owned "n1").isSome = true ∧
      RoutesAgree tagReconciler.references "os" s'.pool.status.targetDigest
        s' := by
  have returns : (tagReconciler.syncMembership (.calm ["n1"] 0)
      (undueStart "a")).1 = .ok () := by decide +kernel
  have owned : ((tagReconciler.syncMembership (.calm ["n1"] 0)
      (undueStart "a")).2.owned "n1").isSome = true := by decide +kernel
  have faithful : (Env.calm ["n1"] 0).Faithful (undueStart "a").world :=
    Env.faithful_calm (Tables.within_names _) (by decide)
  have resolved : tagReconciler.resolveTargetDigest (.calm ["n1"] 0)
      (undueTag "a") none =
      .ok { pool := undueTag "a", requeueAfter := 1 } := rfl
  obtain ⟨named, parsed, _, _, agree, _⟩ := digest_routes_agree tagReconciler
    (.calm ["n1"] 0) (· = "a") acceptsDigests_tagReconciler
    (resolvesValid_calm _ _ _) (.inr rfl) resolved
    (by decide : "a" ≠ "") rfl faithful rfl rfl (Prod.ext returns rfl)
  cases parsed
  exact ⟨_, Prod.ext returns rfl, owned, agree⟩

end BootcOperator
