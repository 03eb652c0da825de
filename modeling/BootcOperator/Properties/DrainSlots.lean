import BootcOperator.Properties.DrainOwnership

/-!
# Drains run inside slots

A slot is freed without a look at `r.drains`.  As long as no `Reconcile` meets
a drain of a node that already reports the image it is to get, every drain is
of a node that holds its slot and still has to reboot.  The last section shows
the run in which the desired image goes back to the booted one.
-/

namespace BootcOperator

open BootcNodePoolReconciler

/-- The daemon reports the image as booted. -/
def reportsImage (lib : ReferenceLibrary) (bn : BootcNode)
    (image : String) : Bool :=
  match lib.digestOf image with
  | none => false
  | some digest => infoMatchesDigest lib bn.status.booted digest

/-! ## What a pass keeps -/

/-- The BootcNode of a node that is being drained: it holds a slot, and if it
is a BootcNode of the pool, its node has neither the image it is to get nor
the image of the pass. -/
structure InSlot (c : PassContext) (found : Option BootcNode) : Prop where
  slotted : ∃ bn, found = some bn ∧ bn.inRebootSlot = true
  behind : ∀ bn, found = some bn → bn.isControlledBy c.pool = true →
    reportsDesired c.reconciler.references bn = false ∧
      reportsImage c.reconciler.references bn c.desiredImage = false

/-- Every drain is of a node in a reboot slot. -/
def DrainsInSlots (c : PassContext) (w : World) : Prop :=
  ∀ name status, w.drains name = some status →
    InSlot c (w.api.bootcNode name)

section Pass

variable {c : PassContext} {name : String} {w w' : World} {action : Action}
  {budget : Option Int}

theorem InSlot.put
    {bn new : BootcNode} (inSlot : InSlot c (some bn))
    (controlled : bn.isControlledBy c.pool = true)
    (slotted : new.inRebootSlot = true) (status : new.status = bn.status)
    (image : new.spec.desiredImage = bn.spec.desiredImage ∨
      new.spec.desiredImage = c.desiredImage) :
    InSlot c (some new) := by
  obtain ⟨stale, other⟩ := inSlot.behind bn rfl controlled
  refine ⟨⟨new, rfl, slotted⟩, fun found isFound _ => ?_⟩
  obtain rfl := Option.some.inj isFound
  have sameImage : reportsImage c.reconciler.references new c.desiredImage =
      reportsImage c.reconciler.references bn c.desiredImage := by
    simp only [reportsImage, status]
  refine ⟨?_, sameImage.trans other⟩
  rcases image with kept | synced
  · exact (reportsDesired_congr kept status).trans stale
  · have isImage : reportsDesired c.reconciler.references new =
        reportsImage c.reconciler.references new c.desiredImage := by
      rw [reportsDesired, synced]
      rfl
    exact isImage.trans (sameImage.trans other)

/-- What a pass does to the BootcNode of a node that is being drained. -/
theorem InSlot.change
    {after : Option BootcNode} (inSlot : InSlot c (w.api.bootcNode name))
    (change : BootcNodeChange c name w action after)
    (present : w.drains name = none → after ≠ none) : InSlot c after := by
  have before : ∀ {bn}, w.api.bootcNode name = some bn →
      InSlot c (some bn) ∧ bn.inRebootSlot = true := by
    intro bn stored
    obtain ⟨old, isOld, slotted⟩ := inSlot.slotted
    obtain rfl := Option.some.inj (isOld.symm.trans stored)
    exact ⟨stored ▸ inSlot, slotted⟩
  cases change with
  | kept => exact inSlot
  | created _ absent =>
      obtain ⟨bn, stored, _⟩ := inSlot.slotted
      rw [absent] at stored
      cases stored
  | synced _ owns =>
      obtain ⟨old, slotted⟩ := before owns.stored
      exact old.put owns.controlled slotted rfl (.inr rfl)
  | approved owns _ _ =>
      obtain ⟨old, slotted⟩ := before owns.stored
      exact old.put owns.controlled slotted rfl (.inl rfl)
  | annotated owns slot =>
      obtain ⟨old, slotted⟩ := before owns.stored
      exact old.put owns.controlled (slot.trans slotted) rfl (.inl rfl)
  | freed owns upToDate =>
      obtain ⟨old, _⟩ := before owns.stored
      have stale := (old.behind _ rfl owns.controlled).1
      have reported := reportsDesired_of_upToDate upToDate
      exact absurd (stale.symm.trans reported) (by simp)
  | assigned owns _ slotted =>
      obtain ⟨old, _⟩ := before owns.stored
      exact old.put owns.controlled slotted rfl (.inl rfl)
  | deleted _ undrained => exact absurd rfl (present undrained)

/-- A drain is started for a node that holds a slot and is still to reboot. -/
theorem InSlot.of_staged
    {bn : BootcNode} (owns : OwnsTargeted c w name bn)
    (staged : classifyNode c.reconciler.references bn = .ok .staged)
    (slotted : bn.inRebootSlot = true) : InSlot c (w.api.bootcNode name) := by
  rw [owns.stored]
  refine ⟨⟨bn, rfl, slotted⟩, fun found isFound _ => ?_⟩
  obtain rfl := Option.some.inj isFound
  have stale := reportsDesired_of_staged staged
  refine ⟨stale, ?_⟩
  rw [reportsDesired, owns.targeted] at stale
  exact stale

theorem Effect.drainsInSlots
    (effect : Effect c budget action w w') (inSlots : DrainsInSlots c w) :
    DrainsInSlots c w' := by
  intro name status entry
  have bootcNode := effect.bootcNodeChange name
  have drain := effect.drainChange name
  rw [entry] at drain
  generalize isDrain : some status = after at drain
  cases drain with
  | kept _ =>
      have before := inSlots name status isDrain.symm
      refine before.change bootcNode fun undrained => ?_
      rw [undrained] at isDrain
      cases isDrain
  | ended _ _ => cases isDrain
  | started owns staged slotted _ _ =>
      refine (InSlot.of_staged owns staged slotted).change bootcNode fun _ => ?_
      intro deleted
      cases effect with
      | startDrain owns' _ _ _ _ =>
          have stored : w.api.bootcNode name = none := deleted
          rw [owns.stored] at stored
          cases stored
  | stalled before _ =>
      refine (inSlots name _ before).change bootcNode fun undrained => ?_
      rw [undrained] at before
      cases before

end Pass

/-! ## Runs -/

/-- Users edit pools and Nodes, and daemons report their status; nobody but
the operator deletes BootcNodes or touches their slots. -/
def LeavesSlots (s : DrainRun) : DrainAction → Prop
  | .edit api =>
      ∀ name bn, s.world.api.bootcNode name = some bn →
        ∃ bn', api.bootcNode name = some bn' ∧
          bn'.inRebootSlot = bn.inRebootSlot
  | _ => True

/-- A `Reconcile` of a pool meets no drain of a node that the pool owns and
that reports the image in its BootcNode or the image which the pass rolls
out. -/
def MeetsNoCompletedDrain (r : BootcNodePoolReconciler) (s : DrainRun) :
    DrainAction → Prop
  | .reconcile env request =>
      ∀ pool, s.world.api.pool request = some pool →
        ∀ name status bn, s.world.drains name = some status →
          s.world.api.bootcNode name = some bn →
            bn.isControlledBy pool = true →
              reportsDesired r.references bn = false ∧
                reportsImage r.references bn
                  (r.contextOf env request s.world).desiredImage = false
  | _ => True

/-- Reads are fresh, and nobody else touches the slots. -/
def Undisturbed (s : DrainRun) (action : DrainAction) : Prop :=
  ReadsFresh s action ∧ LeavesSlots s action

/-- Every node that is being drained has a BootcNode with a slot. -/
def DrainsSlotted (w : World) : Prop :=
  ∀ name status, w.drains name = some status →
    ∃ bn, w.api.bootcNode name = some bn ∧ bn.inRebootSlot = true

section Run

variable {r : BootcNodePoolReconciler} {s : DrainRun} {env : Env}
  {request : String}

theorem drainsInSlots_of_meets
    {pool : BootcNodePool} (slotted : DrainsSlotted s.world)
    (stored : s.world.api.pool request = some pool)
    (meets : MeetsNoCompletedDrain r s (.reconcile env request)) :
    DrainsInSlots (r.contextOf env request s.world) s.world := by
  have uid := (contextOf_keeps r request env stored).1
  intro name status entry
  refine ⟨slotted name status entry, fun bn isBn controlled => ?_⟩
  refine meets pool stored name status bn entry isBn ?_
  rw [BootcNode.isControlledBy, ← uid]
  exact controlled

/-- A `Reconcile` that meets the condition keeps its drains in their slots. -/
theorem drainsInSlots_of_reconcile
    {pool : BootcNodePool} (slotted : DrainsSlotted s.world)
    (faithful : env.Faithful s.world)
    (stored : s.world.api.pool request = some pool)
    (meets : MeetsNoCompletedDrain r s (.reconcile env request)) :
    DrainsInSlots (r.contextOf env request s.world)
      (r.reconcile env request (.start s.world)).2.world :=
  (r.reconcile_invariant request _ (fun effect => effect.drainsInSlots)
    faithful (drainsInSlots_of_meets slotted stored meets)).1

theorem drainsSlotted_of_path
    {start : DrainRun} {actions : List DrainAction}
    (idle : ∀ name, start.world.drains name = none)
    (path : (drainMachine r).Path
      (fun s action => Undisturbed s action ∧ MeetsNoCompletedDrain r s action)
      start actions s) :
    DrainsSlotted s.world := by
  refine path.invariant (fun s => DrainsSlotted s.world) ?_ ?_
  · intro s action s' slotted meets stepped
    cases action with
    | reconcile env request =>
        cases stepped
        cases stored : s.world.api.pool request with
        | none =>
            have unchanged := r.reconcile_of_missing request meets.1.1 stored
            dsimp only
            rw [unchanged]
            exact slotted
        | some pool =>
            exact fun name status entry =>
              (drainsInSlots_of_reconcile slotted meets.1.1 stored meets.2 name
                status entry).slotted
    | finish name outcome =>
        simp only [drainMachine] at stepped
        split at stepped
        · cases stepped
        · next status entry =>
            split at stepped
            · cases stepped
              intro other otherStatus otherEntry
              by_cases same : other = name
              · exact same ▸ slotted name status entry
              · rw [s.world.putDrain_of_ne same] at otherEntry
                exact slotted other otherStatus otherEntry
            · cases stepped
    | edit api =>
        cases stepped
        intro name status entry
        obtain ⟨bn, isBn, inSlot⟩ := slotted name status entry
        obtain ⟨bn', isBn', sameSlot⟩ := meets.1.2 name bn isBn
        exact ⟨bn', isBn', sameSlot.trans inSlot⟩
  · intro name status entry
    rw [idle] at entry
    cases entry

/-- In every run in which no `Reconcile` meets a drain of a node that already
reports the image it is to get, a `Reconcile` of a pool leaves drains only of
those nodes of the pool that hold a slot and do not run their desired image. -/
theorem drains_inside_slots
    {start : DrainRun} {actions : List DrainAction} {pool : BootcNodePool}
    (idle : ∀ name, start.world.drains name = none)
    (path : (drainMachine r).Path
      (fun s action => Undisturbed s action ∧ MeetsNoCompletedDrain r s action)
      start actions s)
    (faithful : env.Faithful s.world)
    (meets : MeetsNoCompletedDrain r s (.reconcile env request))
    (stored : s.world.api.pool request = some pool) :
    let after := (r.reconcile env request (.start s.world)).2.world
    ∀ name status bn, after.drains name = some status →
      after.api.bootcNode name = some bn → bn.isControlledBy pool = true →
        bn.inRebootSlot = true ∧ reportsDesired r.references bn = false := by
  intro after name status bn entry isBn controlled
  have inSlot := drainsInSlots_of_reconcile (drainsSlotted_of_path idle path)
    faithful stored meets name status entry
  have uid : (r.contextOf env request s.world).pool.uid = pool.uid := by
    rw [contextOf_pool r request env stored]
    exact (r.settledPool_keeps env s.world pool).2.1
  obtain ⟨found, isFound, slotted⟩ := inSlot.slotted
  obtain rfl := Option.some.inj (isFound.symm.trans isBn)
  refine ⟨slotted, (inSlot.behind found isFound ?_).1⟩
  rw [BootcNode.isControlledBy, uid]
  exact controlled

end Run

/-! ## Back to the booted image -/

def draining : DrainRun :=
  { world := drainStarted.world
    warnings := fun name => warningsAfter name 0 drainStarted.log }

theorem draining_within : draining.world.Within ["n1"] :=
  osReconciler.reconcile_within "workers"
    (faithful_calm_n1 twoPools.within_names) twoPools.within_names

theorem path_draining :
    (drainMachine osReconciler).Path
      (fun s action => Undisturbed s action ∧
        MeetsNoCompletedDrain osReconciler s action)
      drainStart [.reconcile (.calm ["n1"] 0) "workers"] draining := by
  refine .cons ⟨⟨faithful_calm_n1 twoPools.within_names, trivial⟩, ?_⟩ rfl
    (.nil _)
  intro pool _ name status bn entry
  cases entry

theorem meetsNoCompletedDrain_draining :
    MeetsNoCompletedDrain osReconciler draining
      (.reconcile (.calm ["n1"] 0) "workers") := by
  intro pool _ name status bn entry isBn _
  obtain rfl : name = "n1" := by
    simpa using draining_within.bootcNode name (by simp [isBn])
  obtain rfl := Option.some.inj isBn
  decide

def nextDraining : PassState :=
  (osReconciler.reconcile (.calm ["n1"] 0) "workers"
    (.start draining.world)).2

theorem nextDraining_drains :
    (nextDraining.world.drains "n1").isSome = true := by
  decide +kernel

theorem draining_pool :
    (draining.world.api.pool "workers").map BootcNodePool.uid =
      some (osPool "os@b").uid := by
  decide +kernel

/-- The next `Reconcile` leaves the drain in its slot. -/
theorem drains_inside_slots_of_draining :
    ∃ status, nextDraining.world.drains "n1" = some status ∧
      ∀ bn, nextDraining.world.api.bootcNode "n1" = some bn →
        bn.isControlledBy (osPool "os@b") = true →
          bn.inRebootSlot = true ∧
            reportsDesired osLibrary bn = false := by
  obtain ⟨status, entry⟩ := Option.isSome_iff_exists.mp nextDraining_drains
  obtain ⟨pool, stored, uid⟩ := Option.map_eq_some_iff.mp draining_pool
  have idle : ∀ name, drainStart.world.drains name = none := fun _ => rfl
  have inside := drains_inside_slots idle path_draining
    (faithful_calm_n1 draining_within) meetsNoCompletedDrain_draining stored
  refine ⟨status, entry, fun bn isBn controlled => ?_⟩
  unfold nextDraining at entry isBn
  refine inside "n1" status bn entry isBn ?_
  rw [BootcNode.isControlledBy, uid]
  exact controlled

/-- While `n1` drains, the pool goes back to the booted image. -/
def revertActions : List DrainAction :=
  [.reconcile (.calm ["n1"] 0) "workers",
    .edit (draining.world.setImageRef "workers" "os@a").api]

def reverted : DrainRun :=
  { draining with
    world :=
      { draining.world with
        api := (draining.world.setImageRef "workers" "os@a").api } }

def afterRevert : Except ApiError Duration × PassState :=
  osReconciler.reconcile (.calm ["n1"] 0) "workers" (.start reverted.world)

/-- The `Reconcile` after the revert succeeds and frees the slot of the node:
the node is uncordoned, and its drain is still running. -/
theorem drain_outlives_slot :
    (drainMachine osReconciler).Path Undisturbed drainStart revertActions
      reverted ∧
    (∀ name, drainStart.world.drains name = none) ∧
    (Env.calm ["n1"] 0).Faithful reverted.world ∧
    afterRevert.1.isOk = true ∧
    (afterRevert.2.world.drains "n1").map
        (fun status => (status.outcome, status.cancelled)) =
      some (.running, false) ∧
    (afterRevert.2.world.api.bootcNode "n1").map
        (fun bn => (bn.isControlledBy (osPool "os@b"), bn.inRebootSlot,
          reportsDesired osLibrary bn)) =
      some (true, false, true) ∧
    (afterRevert.2.world.api.node "n1").map Node.unschedulable =
      some false := by
  refine ⟨?_, fun _ => rfl, faithful_calm_n1 ?_, by decide +kernel,
    by decide +kernel, by decide +kernel, by decide +kernel⟩
  · refine .cons ⟨faithful_calm_n1 twoPools.within_names, trivial⟩ rfl
      (.cons ⟨trivial, ?_⟩ rfl (.nil _))
    intro name bn isBn
    rw [World.setImageRef_bootcNode]
    exact ⟨bn, isBn, rfl⟩
  · have within := draining_within.setImageRef "workers" "os@a"
    exact ⟨within.node, within.bootcNode, draining_within.drain⟩

end BootcOperator
