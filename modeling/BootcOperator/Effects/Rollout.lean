import BootcOperator.Effects.Drains
import BootcOperator.Effects.Membership
import BootcOperator.Effects.Slots

/-!
# The rollout as effects

The rules for `Controller.Rollout`.  Slots are freed only on nodes classified
up to date and assigned only to nodes classified staged, within the budget;
a drain is started only for a node with a slot.
-/

namespace BootcOperator

open Program

variable {s : PassState} {bn : BootcNode} {call : Call}

namespace BootcNodePoolReconciler

section Drains

variable {c : PassContext} {name : String} {status : DrainStatus}
  {pre : PassState → Prop} {exc : ApiError → PassState → Prop}

theorem follows_forgetDrain
    (ignores : IgnoresDrain name pre)
    (finished : status.outcome ≠ .running)
    (lost : ∀ s, pre s → (∀ bn, ¬ Owns c s.world name bn) ∨
      (status.outcome = .succeeded ∧ c.env.fails (.approve name) ≠ none) ∨
      (status.outcome ≠ .succeeded ∧ status.cancelled = true)) :
    (regime c).Follows
      (fun s => pre s ∧ s.world.drains name = some status)
      (forgetDrain name)
      (fun _ s => pre s ∧ s.world.drains name = none) exc := by
  refine .step (fun s before => ?_) fun s before => ⟨?_, ?_⟩
  · exact .act rfl (.collectDrain before.2 finished (lost s before.1))
  · exact ignores s _ _ before.1
  · simp [PassState.perform, World.putDrain]

theorem Targets.ignoresDrain
    (c : PassContext) (budget : Option Int) (name : String) :
    IgnoresDrain name (Targets c budget) :=
  fun s action drain targets =>
    ⟨Tracks.ignoresDrain c name s action drain targets.toTracks,
      targets.resolved, targets.targeted, targets.members⟩

/-- What holds at the iteration for a finished drain of an owned node. -/
structure Collects (c : PassContext) (name : String) (status : DrainStatus)
    (bn : BootcNode) (s : PassState) : Prop extends Targets c none s where
  entry : s.world.drains name = some status
  isOwned : s.owned name = some bn

theorem Collects.insensitive :
    Insensitive name (Collects c name status bn) :=
  fun s s' alike collects =>
    ⟨Targets.insensitive c none name s s' alike collects.toTargets,
      (congrFun alike.drains name).trans collects.entry,
      (congrFun alike.owned name).trans collects.isOwned⟩

theorem follows_approveReboot
    (stopped : Tolerant exc) (succeeded : status.outcome = .succeeded) :
    (regime c).Follows (Collects c name status bn)
      (approveReboot c.env name bn)
      (fun _ s => Targets c none s ∧ s.world.drains name = none) exc := by
  have finished : status.outcome ≠ .running := by simp [succeeded]
  refine .bind (.attempt (follows_sendWrite_refused
    Collects.insensitive.ignoresIssued)) fun result => ?_
  cases result with
  | error e =>
      refine .know (e.Routine ∧ c.env.fails (.approve name) ≠ none)
        (fun s before => before.1) fun refused => ?_
      refine .conseq (.bind (follows_forgetDrain
          (Targets.ignoresDrain c none name) finished
          fun s _ => .inr (.inl ⟨succeeded, refused.2⟩))
          fun _ => .fail fun s _ => stopped e s refused.1)
        (fun s before => ⟨before.2.toTargets, before.2.entry⟩)
        (fun _ _ after => after) fun _ _ after => after
  | ok _ =>
      refine .bindRead fun found => ?_
      cases found with
      | none =>
          refine .know False (fun s before => ?_) False.elim
          have stored := (before.1.owns before.1.isOwned).stored
          rw [before.2] at stored
          cases stored
      | some server =>
          have isServer : ∀ s : PassState,
              Collects c name status bn s ∧
                s.world.api.bootcNode name = some server →
              server = bn := by
            intro s before
            have stored := (before.1.owns before.1.isOwned).stored
            rw [before.2, Option.some.injEq] at stored
            exact stored
          refine .step (fun s before => ?_) fun s before => ?_
          · have same := isServer s before
            subst same
            rw [BootcNode.merge_spec]
            exact .act rfl (.approve (before.1.ownsTargeted before.1.isOwned)
              before.1.entry succeeded)
          · have same := isServer s before
            subst same
            rw [BootcNode.merge_spec]
            have forgotten := Targets.ignoresDrain c none name s
              (.collectDrain name) none before.1.toTargets
            have approved : Targets c none
                ((s.perform (.collectDrain name)
                  (s.world.putDrain name none)).patched (.approve name) name
                    (server.setSpec
                      { server.spec with desiredImageState := .booted })) :=
              forgotten.patched before.1.isOwned rfl rfl
            refine ⟨Targets.insensitive c none name _ _ ?_ approved, ?_⟩
            · exact ⟨rfl, rfl, rfl, rfl, rfl, rfl, rfl, rfl, fun _ _ => rfl⟩
            · simp [PassState.perform, PassState.setOwned,
                World.putBootcNode, World.putDrain]

theorem follows_reportFailedDrain
    {err : String} (failed : status.outcome = .failed err)
    (uncancelled : status.cancelled = false) :
    (regime c).Follows (Collects c name status bn)
      (reportFailedDrain name err)
      (fun _ s => Targets c none s ∧ s.world.drains name = none) exc := by
  refine .bindReadOf (·.SameTarget c.pool)
    (fun s before => before.target) fun pool same => ?_
  refine .step (fun s before => ?_) fun s before => ⟨?_, ?_⟩
  · rw [same.name]
    exact .act rfl (.reportDrain (before.1.owns before.1.isOwned)
      before.1.entry failed uncancelled)
  · exact Targets.ignoresDrain c none name s _ _ before.1.toTargets
  · simp [PassState.perform, World.putDrain]

theorem follows_recordNodeEvent
    {loud : Bool} {type : EventType} {reason action : String}
    {eventNote : EventNote} (insensitive : Insensitive name pre)
    (permitted : (loud || !eventNote.isStall) = true) :
    (observing (Step c loud)).Follows pre
      (recordNodeEvent name type reason action eventNote)
      (fun _ s => pre s) exc :=
  .bindRead fun _ => follows_note (fun _ _ => .act permitted .event)
    fun s before => insensitive s _ (.note name s _) before.1

/-- The drain of the node, if any, still runs. -/
def Unfinished (name : String) (s : PassState) : Prop :=
  ∀ status, s.world.drains name = some status → status.outcome = .running

theorem follows_collectDrainResult (stopped : Tolerant exc) :
    (regime c).Follows (Targets c none) (collectDrainResult c.env name)
      (fun _ s => Targets c none s ∧ Unfinished name s) exc := by
  have ignores := Targets.ignoresDrain c none name
  have gone : ∀ s : PassState, Targets c none s ∧
      s.world.drains name = none → Targets c none s ∧ Unfinished name s := by
    intro s after
    refine ⟨after.1, fun status entry => ?_⟩
    rw [after.2] at entry
    cases entry
  have unowned : ∀ s : PassState, Targets c none s ∧ s.owned name = none →
      ∀ bn, ¬ Owns c s.world name bn := by
    intro s before bn owns
    have owned := before.1.owned_of_owns owns
    rw [before.2] at owned
    cases owned
  have ignoresOwned : IgnoresDrain name fun s =>
      Targets c none s ∧ s.owned name = none :=
    fun s action drain before => ⟨ignores s action drain before.1, before.2⟩
  refine .bindRead fun found => ?_
  cases found with
  | none => exact .ret fun s before => gone s before
  | some status =>
      cases outcome : status.outcome with
      | running =>
          simp only [outcome]
          refine .ret fun s before => ⟨before.1, fun other entry => ?_⟩
          rw [before.2, Option.some.injEq] at entry
          exact entry ▸ outcome
      | failed err =>
          have finished : status.outcome ≠ .running := by simp [outcome]
          simp only [outcome]
          refine .bindRead fun owned => .ite (fun reported => ?_)
            fun silent => ?_
          · simp only [Bool.and_eq_true, Bool.not_eq_true',
              Option.isSome_iff_exists] at reported
            obtain ⟨uncancelled, bn, rfl⟩ := reported
            exact .conseq (follows_reportFailedDrain outcome uncancelled)
              (fun s before => ⟨before.1.1, before.1.2, before.2⟩)
              (fun _ => gone) fun _ _ after => after
          · cases owned with
            | none =>
                refine .conseq (follows_forgetDrain ignoresOwned finished
                    fun s before => .inl (unowned s before))
                  (fun s before => ⟨⟨before.1.1, before.2⟩, before.1.2⟩)
                  (fun _ s after => gone s ⟨after.1.1, after.2⟩)
                  fun _ _ after => after
            | some bn =>
                have cancelled : status.cancelled = true := by
                  simpa using silent
                exact .conseq (follows_forgetDrain ignores finished
                    fun s _ => .inr (.inr ⟨by simp [outcome], cancelled⟩))
                  (fun s before => before.1)
                  (fun _ => gone) fun _ _ after => after
      | succeeded =>
          have finished : status.outcome ≠ .running := by simp [outcome]
          simp only [outcome]
          refine .bindRead fun owned => ?_
          cases owned with
          | none =>
              exact .conseq (follows_forgetDrain ignoresOwned finished
                  fun s before => .inl (unowned s before))
                (fun s before => ⟨⟨before.1.1, before.2⟩, before.1.2⟩)
                (fun _ s after => gone s ⟨after.1.1, after.2⟩)
                fun _ _ after => after
          | some bn =>
              exact .mapError (.conseq
                (follows_approveReboot (stopped.wrap _) outcome)
                (fun s before => ⟨before.1.1, before.1.2, before.2⟩)
                (fun _ => gone) fun _ _ after => after)

theorem follows_collectDrainResults (stopped : Tolerant exc) :
    (regime c).Follows
      (fun s => Targets c none s ∧
        s.world.Within (c.env.order .drainResults))
      (collectDrainResults c.env)
      (fun _ s => Targets c none s ∧ Collected s.world) exc := by
  let inv (done : List String) (seen : Seen) : Prop :=
    seen.world.Within (c.env.order .drainResults) ∧
      ∀ name ∈ done, ∀ status, seen.world.drains name = some status →
        status.outcome = .running
  refine .conseq (.forEach
      (fun done s => Targets c none s ∧ inv done s.seen)
      fun done name rest _ => ?_)
    (fun s before => ⟨before.1, before.2, by simp⟩)
    (fun _ s after => ⟨after.1, fun name status entry => ?_⟩)
    fun _ _ after => after
  · refine .conseq ((follows_collectDrainResult stopped).withInvariant
      (inv done) fun step kept => ⟨step.within kept.1, fun other member =>
        step.running (kept.2 other member)⟩)
      (fun _ before => before) (fun _ s after => ?_) fun _ _ after => after.1
    refine ⟨after.1.1, after.2.1, fun other member => ?_⟩
    rcases List.mem_append.mp member with earlier | last
    · exact after.2.2 other earlier
    · exact List.mem_singleton.mp last ▸ after.1.2
  · have present : s.world.drains name ≠ none := by simp [entry]
    exact after.2.2 name (after.2.1.drain name present) status entry

end Drains

/-! ## Classified nodes -/

/-- The buckets agree with the classification. -/
structure Rolling (c : PassContext) (budget : Option Int) (s : PassState) :
    Prop extends Targets c budget s where
  upToDate : ∀ name ∈ s.rs.upToDate, ∀ bn, s.owned name = some bn →
    classifyNode c.reconciler.references bn = .ok .upToDate
  staged : ∀ name ∈ s.rs.staged, ∀ bn, s.owned name = some bn →
    classifyNode c.reconciler.references bn = .ok .staged

/-- At most `n` slots are occupied. -/
def SlotsAtMost (c : PassContext) (n : Nat) (s : PassState) : Prop :=
  (slottedNodes c.pool s.world.api).encard ≤ n

/-- `occupiedSlots` does not count too few slots. -/
def Occupied (c : PassContext) (s : PassState) : Prop :=
  ∃ n : Nat, s.rs.occupiedSlots = n ∧ SlotsAtMost c n s

section Classified

variable {c : PassContext} {budget : Option Int} {name : String}

theorem Rolling.insensitive :
    Insensitive name (Rolling c budget) :=
  fun s s' alike rolling =>
    ⟨Targets.insensitive c budget name s s' alike rolling.toTargets,
      alike.rs ▸ alike.owned ▸ rolling.upToDate,
      alike.rs ▸ alike.owned ▸ rolling.staged⟩

theorem SlotsAtMost.insensitive {n : Nat} :
    Insensitive name (SlotsAtMost c n) := by
  intro s s' alike atMost
  unfold SlotsAtMost slottedNodes
  rw [alike.bootcNode]
  exact atMost

theorem Occupied.insensitive : Insensitive name (Occupied c) := by
  rintro s s' alike ⟨n, counted, atMost⟩
  exact ⟨n, alike.rs ▸ counted, SlotsAtMost.insensitive s s' alike atMost⟩

theorem Rolling.annotated
    (rolling : Rolling c budget s) (owned : s.owned name = some bn)
    (annotations : Annotations BootcNodeKey) :
    Rolling c budget
      (s.patched call name { bn with annotations := annotations }) := by
  have kept : ∀ other bn',
      (s.patched call name
        { bn with annotations := annotations }).owned other = some bn' →
      ∃ old, s.owned other = some old ∧
        classifyNode c.reconciler.references bn' =
          classifyNode c.reconciler.references old := by
    intro other bn' owned'
    by_cases same : other = name
    · subst same
      rw [s.patched_owned_self, Option.some.injEq] at owned'
      exact ⟨bn, owned, classifyNode_congr (owned' ▸ rfl) (owned' ▸ rfl)⟩
    · rw [s.patched_owned_of_ne _ _ same] at owned'
      exact ⟨bn', owned', rfl⟩
  refine ⟨rolling.toTargets.patched owned rfl rfl, ?_, ?_⟩
  · intro other member bn' owned'
    obtain ⟨old, wasOwned, classified⟩ := kept other bn' owned'
    exact classified.trans (rolling.upToDate other member old wasOwned)
  · intro other member bn' owned'
    obtain ⟨old, wasOwned, classified⟩ := kept other bn' owned'
    exact classified.trans (rolling.staged other member old wasOwned)

/-- `buildRolloutState` counts every slot of the pool. -/
theorem Sorted.slotsAtMost
    {rs : RolloutState}
    (sorted : Sorted c.reconciler.references s.owned
      (c.env.order .classification) rs)
    (tracks : Tracks c s) :
    ∃ n : Nat, rs.occupiedSlots = n ∧ SlotsAtMost c n s := by
  refine ⟨_, sorted.occupied, ?_⟩
  refine encard_le_of_counted ?_
  rintro other ⟨bn, stored, controlled, slotted⟩
  have owned := tracks.owned_of_owns ⟨stored, controlled⟩
  exact ⟨tracks.covered .classification other (by simp [owned]),
    by simp [slottedWith, owned, slotted]⟩

theorem follows_classifyNodes {exc : ApiError → PassState → Prop} :
    (regime c).Follows (Targets c none) (c.reconciler.classifyNodes c.env)
      (fun _ s => Rolling c none s ∧ Occupied c s) exc := by
  refine .update (fun _ _ => rfl) fun s targets => ?_
  have sorted := (sorted_buildRolloutState c.reconciler.references s.owned
    (c.env.order .classification)).applyRebootTimeouts
      (resolveRebootTimeout s.pool) c.env.now
  obtain ⟨n, counted, atMost⟩ := Sorted.slotsAtMost sorted targets.toTracks
  refine ⟨⟨⟨⟨?_, targets.owned, targets.covered, targets.unhalted⟩,
    targets.resolved, targets.targeted, targets.members⟩, sorted.upToDate,
    sorted.staged⟩,
    n, counted, atMost⟩
  dsimp only
  split
  · exact targets.target.setPoolDegraded _ _ _
  · exact targets.target

end Classified

/-! ## Freeing slots -/

theorem freedAnnotations_inRebootSlot (annotations : Annotations BootcNodeKey) :
    (freedAnnotations annotations).has .inRebootSlot = false := by
  simp [freedAnnotations, Annotations.has]

section Freeing

variable {c : PassContext} {name : String} {node : Node}
  {exc : ApiError → PassState → Prop}

theorem Occupied.annotated
    (occupied : Occupied c s) (tracks : Tracks c s)
    (owned : s.owned name = some bn) {annotations : Annotations BootcNodeKey}
    (slot : annotations.has .inRebootSlot = bn.inRebootSlot) :
    Occupied c (s.patched call name { bn with annotations := annotations }) := by
  obtain ⟨n, counted, atMost⟩ := occupied
  refine ⟨n, counted, ?_⟩
  have same : slottedNodes c.pool
      (s.patched call name { bn with annotations := annotations }).world.api =
        slottedNodes c.pool s.world.api :=
    slottedNodes_putBootcNode_of_same c.pool (tracks.owns owned).stored rfl
      slot
  unfold SlotsAtMost
  rw [same]
  exact atMost

theorem Occupied.freed
    (occupied : Occupied c s) (tracks : Tracks c s)
    (owned : s.owned name = some bn) (slotted : bn.inRebootSlot = true)
    (call : Call) :
    ∃ n : Nat, s.rs.occupiedSlots - 1 = n ∧
      SlotsAtMost c n
        (s.patched call name
          { bn with annotations := freedAnnotations bn.annotations }) := by
  obtain ⟨n, counted, atMost⟩ := occupied
  have owns := tracks.owns owned
  have member : name ∈ slottedNodes c.pool s.world.api :=
    ⟨bn, owns.stored, owns.controlled, slotted⟩
  have free : slottedNodes c.pool
      (s.patched call name { bn with
        annotations := freedAnnotations bn.annotations }).world.api =
        slottedNodes c.pool s.world.api \ {name} :=
    slottedNodes_putBootcNode_of_free c.pool s.world name
      (freedAnnotations_inRebootSlot _)
  obtain ⟨k, isSucc, fewer⟩ := encard_sdiff_singleton_le member atMost
  refine ⟨k, by omega, ?_⟩
  unfold SlotsAtMost
  rw [free]
  exact fewer

/-- The loop over the completed nodes. -/
structure Freeing (c : PassContext) (completed : List String)
    (s : PassState) : Prop extends Rolling c none s where
  occupied : Occupied c s
  bucket : s.rs.upToDate = completed

variable {completed : List String}

theorem Freeing.insensitive : Insensitive name (Freeing c completed) :=
  fun s s' alike freeing =>
    ⟨Rolling.insensitive s s' alike freeing.toRolling,
      Occupied.insensitive s s' alike freeing.occupied,
      alike.rs ▸ freeing.bucket⟩

theorem Freeing.isCompleted
    (freeing : Freeing c completed s) (member : name ∈ completed)
    (owned : s.owned name = some bn)
    (present : s.world.api.node name = some node)
    (isReady : nodeReadyStatus node = .conditionTrue) :
    Completed c s.world name bn node :=
  { toOwnsTargeted := freeing.ownsTargeted owned
    upToDate := freeing.upToDate name (freeing.bucket ▸ member) bn owned
    present := present
    isReady := isReady }

theorem follows_freeRebootSlot
    (stopped : Tolerant exc)
    (fresh : c.env.Fresh)
    (member : name ∈ completed) (slotted : bn.inRebootSlot = true)
    (isReady : nodeReadyStatus node = .conditionTrue) :
    (regime c).Follows
      (fun s => (Freeing c completed s ∧ s.owned name = some bn) ∧
        s.world.api.node name = some node)
      (freeRebootSlot c.env name bn node)
      (fun _ s => Freeing c completed
        { s with
          rs := { s.rs with occupiedSlots := s.rs.occupiedSlots - 1 } })
      exc := by
  have quiet : Insensitive name fun s =>
      Freeing c completed s ∧ s.owned name = some bn :=
    Freeing.insensitive.and (.owned name name _)
  refine .bind (follows_restoreNodeState quiet stopped fresh
    (fun s before => before.1.owns before.2) (fun _ _ => rfl)
    fun owned s before stored =>
      ⟨before.1.isCompleted member before.2 stored isReady, owned⟩)
    fun node' => .mapError (.assume fun restored => ?_)
  refine follows_patchBootcNode ?_ (stopped.wrap _).stops
    (fun s before => (before.1.1.owns before.1.2).stored)
    (BootcNode.merge_annotations bn rfl) ?_ ?_
  · exact fun s calls before =>
      ⟨quiet s _ (.issued name s calls) before.1, before.2⟩
  · intro s before
    have stillReady : nodeReadyStatus node' = .conditionTrue := by
      unfold nodeReadyStatus at *
      rwa [restored.2]
    refine .act rfl (.freeSlot
      (before.1.1.isCompleted member before.1.2 before.2 stillReady) slotted ?_)
    intro current stored wasCordoned
    have same := Option.some.inj (before.2.symm.trans stored)
    exact same ▸ restored.1 wasCordoned
  · intro s before
    have rolling : Rolling c none (s.patched (.freeSlot name) name
        { bn with annotations := freedAnnotations bn.annotations }) :=
      before.1.1.toRolling.annotated before.1.2 _
    exact
      { target := rolling.target
        owned := rolling.owned
        covered := rolling.covered
        unhalted := rolling.unhalted
        resolved := rolling.resolved
        targeted := rolling.targeted
        members := rolling.members
        upToDate := rolling.upToDate
        staged := rolling.staged
        occupied := before.1.1.occupied.freed before.1.1.toTracks
          before.1.2 slotted (.freeSlot name)
        bucket := before.1.1.bucket }

theorem follows_untaintNode
    {pre : PassState → Prop} (insensitive : Insensitive name pre)
    (stopped : Tolerant exc)
    (completed : ∀ s, pre s → s.world.api.node name = some node →
      Completed c s.world name bn node)
    (owned : bn.annotations.has .ownsOsNotReadyTaint = true) :
    (regime c).Follows
      (fun s => pre s ∧ s.world.api.node name = some node)
      (untaintNode c.env name node) (fun _ s => pre s) exc := by
  refine .ite (fun _ => ?_) fun _ => .ret fun _ before => before.1
  refine .bindVia (fun _ => pre) (.mapError ?_) fun _ =>
    .ret fun _ after => after
  refine follows_patchNode ?_ (stopped.wrap _).stops
    (fun s before => before.2) ?_ ?_
  · exact fun s calls before =>
      ⟨insensitive s _ (.issued name s calls) before.1, before.2⟩
  · exact fun s before =>
      .act rfl (.removeTaint (completed s before.1 before.2) owned)
  · exact fun s before => insensitive s _ (.putNode name s _ _) before.1

theorem follows_removeOsNotReady
    (stopped : Tolerant exc) (member : name ∈ completed)
    (isReady : nodeReadyStatus node = .conditionTrue)
    (owned : bn.annotations.has .ownsOsNotReadyTaint = true) :
    (regime c).Follows
      (fun s => (Freeing c completed s ∧ s.owned name = some bn) ∧
        s.world.api.node name = some node)
      (node |> removeOsNotReadyTaintAndAnnotation c.env name bn)
      (fun _ s => Freeing c completed s) exc := by
  have quiet : Insensitive name fun s =>
      Freeing c completed s ∧ s.owned name = some bn :=
    Freeing.insensitive.and (.owned name name _)
  refine .bind (follows_untaintNode quiet stopped (fun s before stored =>
    before.1.isCompleted member before.2 stored isReady) owned) fun _ => ?_
  refine .ite (fun _ => .mapError ?_) fun _ => .ret fun _ before => before.1
  refine follows_patchBootcNode quiet.ignoresIssued
    (stopped.wrap _).stops
    (fun s before => (before.1.owns before.2).stored)
    (BootcNode.merge_annotations bn rfl) ?_ ?_
  · exact fun s before => .act rfl (.clearTaint (before.1.owns before.2))
  · intro s before
    refine ⟨before.1.toRolling.annotated before.2 _, ?_, before.1.bucket⟩
    refine before.1.occupied.annotated before.1.toTracks before.2 ?_
    simp [Annotations.has, BootcNode.inRebootSlot]

theorem follows_freeCompletedSlot
    (stopped : Tolerant exc)
    (fresh : c.env.Fresh)
    (member : name ∈ completed) :
    (regime c).Follows (Freeing c completed) (freeCompletedSlot c.env name)
      (fun _ s => Freeing c completed s) exc := by
  refine .bindRead fun found => ?_
  cases found with
  | none => exact .ret fun _ before => before.1
  | some bn =>
      refine .ite (fun marked => ?_) fun _ => .ret fun _ before => before.1
      refine .bind (.mapError (follows_get fresh (stopped.wrap _).stops
        fun e s routine _ _ => stopped.wrap _ e s routine))
        fun node => ?_
      refine .ite (fun _ => .ret fun _ before => before.1.1) fun ready => ?_
      have isReady := not_not.mp ready
      refine .ite (fun slotted => ?_) fun unslotted => .mapError
        (follows_removeOsNotReady (stopped.wrap _) member isReady
          (marked.resolve_left unslotted))
      exact .bind (.mapError (follows_freeRebootSlot (stopped.wrap _) fresh
        member slotted isReady)) fun _ =>
        .update (fun _ _ => rfl) fun _ after => after

theorem follows_freeCompletedSlots
    (stopped : Tolerant exc)
    (fresh : c.env.Fresh) :
    (regime c).Follows (fun s => Rolling c none s ∧ Occupied c s)
      (freeCompletedSlots c.env)
      (fun _ s => Rolling c none s ∧ Occupied c s) exc := by
  refine .bindRead fun rs => ?_
  refine .conseq (.forEach_keeps fun name member =>
    follows_freeCompletedSlot stopped fresh member)
    (fun s before => ⟨before.1.1, before.1.2, before.2 ▸ rfl⟩)
    (fun _ s after => ⟨after.toRolling, after.occupied⟩)
    fun _ _ after => after

end Freeing

/-! ## Assigning slots -/

theorem fence_other
    (repairKey disruptKey : BootcNodeKey)
    (owner : Annotations BootcNodeKey) (target : Annotations KarpenterKey) :
    (fence repairKey disruptKey (owner, target)).1.other = owner.other ∧
      (fence repairKey disruptKey (owner, target)).2.other = target.other := by
  unfold fence ensureOwnedAnnotation
  dsimp only
  split_ifs <;> exact ⟨rfl, rfl⟩

theorem fence_known
    {repairKey disruptKey key : BootcNodeKey}
    (notRepair : key ≠ repairKey) (notDisrupt : key ≠ disruptKey)
    (owner : Annotations BootcNodeKey) (target : Annotations KarpenterKey) :
    (fence repairKey disruptKey (owner, target)).1.known key =
      owner.known key := by
  unfold fence ensureOwnedAnnotation
  dsimp only
  split_ifs <;> simp [notRepair, notDisrupt]

section Plan

variable (bn : BootcNode) (node : Node) (claim : Option NodeClaim)

theorem slotAnnotations_other :
    (slotAnnotations bn node).other = bn.annotations.other := by
  unfold slotAnnotations
  dsimp only
  split_ifs <;> rfl

theorem slotPlan_bootcNode_other :
    (slotPlan bn node claim).bootcNode.other = bn.annotations.other := by
  unfold slotPlan
  split
  · cases claim with
    | none => simp [fence_other, slotAnnotations_other]
    | some claim => simp [fence_other, slotAnnotations_other]
  · exact slotAnnotations_other bn node

theorem slotPlan_bootcNode_known
    {key : BootcNodeKey}
    (notRepair : key ≠ .ownsKarpenterDoNotRepair)
    (notDisrupt : key ≠ .ownsKarpenterDoNotDisrupt)
    (notClaimRepair : key ≠ .ownsKarpenterNodeClaimDoNotRepair)
    (notClaimDisrupt : key ≠ .ownsKarpenterNodeClaimDoNotDisrupt) :
    (slotPlan bn node claim).bootcNode.known key =
      (slotAnnotations bn node).known key := by
  unfold slotPlan
  split
  · cases claim with
    | none => exact fence_known notRepair notDisrupt _ _
    | some claim =>
        exact (fence_known notClaimRepair notClaimDisrupt _ _).trans
          (fence_known notRepair notDisrupt _ _)
  · rfl

omit claim in
theorem slotPlan_claim_other
    (claim : NodeClaim) {annotations : Annotations KarpenterKey}
    (planned : (slotPlan bn node (some claim)).claim = some annotations) :
    annotations.other = claim.annotations.other := by
  unfold slotPlan at planned
  split at planned
  · have same := Option.some.inj planned
    rw [← same]
    exact (fence_other _ _ _ _).2
  · cases planned

theorem slotPlan_inRebootSlot :
    (slotPlan bn node claim).bootcNode.has .inRebootSlot = true := by
  unfold Annotations.has
  rw [slotPlan_bootcNode_known bn node claim (by simp) (by simp) (by simp)
    (by simp)]
  unfold slotAnnotations
  dsimp only
  split_ifs <;> simp

end Plan

section Assigning

variable {c : PassContext} {m : Int} {name : String} {node : Node}
  {exc : ApiError → PassState → Prop}

/-- `base` holds before a slot is assigned to the node and `next` after it. -/
structure Assigns (c : PassContext) (m : Int) (name : String)
    (base next : PassState → Prop) : Prop where
  insensitive : Insensitive name base
  insensitiveNext : Insensitive name next
  rolling : ∀ s, base s → Rolling c (some m) s
  rollingNext : ∀ s, next s → Rolling c (some m) s
  isStaged : ∀ s, base s → name ∈ s.rs.staged
  mayTake : ∀ s bn, base s → s.owned name = some bn →
    MayTakeSlot c (some m) s.world bn
  kept : ∀ s bn, base s → s.owned name = some bn →
    bn.inRebootSlot = true → next s
  annotated : ∀ s bn annotations, base s → s.owned name = some bn →
    annotations.has .inRebootSlot = true →
      next (s.patched (.assignSlot name) name
        { bn with annotations := annotations })
  requeued : ∀ s, base s →
    base { s with rs := s.rs.setRequeueAfter karpenterRequeueInterval }
  requeuedNext : ∀ s, next s →
    next { s with rs := s.rs.setRequeueAfter karpenterRequeueInterval }

variable {base next : PassState → Prop} (assigns : Assigns c m name base next)
  (stopped : Tolerant exc)
  (fresh : c.env.Fresh)

def ClaimKnown (claim : Option (String × NodeClaim)) (s : PassState) : Prop :=
  ∀ claimName found, claim = some (claimName, found) →
    s.world.api.nodeClaim claimName = some found

include stopped fresh in
theorem follows_claimToFence
    {pre : PassState → Prop} {prefetched : Option (String × NodeClaim)} :
    (regime c).Follows (fun s => pre s ∧ ClaimKnown prefetched s)
      (claimToFence c.env name node prefetched)
      (fun claim s => pre s ∧ ClaimKnown claim s) exc := by
  refine .ite (fun _ => ?_) fun _ =>
    .ret fun s before => ⟨before.1, by simp [ClaimKnown]⟩
  cases prefetched with
  | some claim => exact .ret fun _ before => before
  | none =>
      refine .bind (.mapError (follows_getKarpenterNodeClaim fresh
        (stopped.wrap _).yields)) fun result => ?_
      cases result with
      | absent => exact .fail fun s _ => stopped _ s (.inl rfl)
      | crdMissing =>
          exact .ret fun s before => ⟨before.1.1, by simp [ClaimKnown]⟩
      | noRef =>
          exact .ret fun s before => ⟨before.1.1, by simp [ClaimKnown]⟩
      | found claimName claim =>
          refine .ret fun s before => ⟨before.1.1, ?_⟩
          intro otherName found same
          cases same
          exact before.2 claimName claim rfl

def HoldsSlot (name : String) (s : PassState) : Prop :=
  ∃ bn, s.owned name = some bn ∧ bn.inRebootSlot = true

include assigns stopped in
theorem follows_annotateSlot
    {claim : Option (String × NodeClaim)} {planned : Option NodeClaim} :
    (regime c).Follows
      (fun s => ((base s ∧ s.owned name = some bn) ∧
        s.world.api.node name = some node) ∧ ClaimKnown claim s)
      (annotateSlot c.env name bn (slotPlan bn node planned).bootcNode)
      (fun _ s => ((next s ∧ HoldsSlot name s) ∧
        s.world.api.node name = some node) ∧ ClaimKnown claim s) exc := by
  refine .ite (fun _ => .mapError ?_) fun unchanged => ?_
  · refine follows_patchBootcNode ?_ (stopped.wrap _).stops
      (fun s before =>
        ((assigns.rolling s before.1.1.1).owns before.1.1.2).stored)
      (BootcNode.merge_annotations bn
        (slotPlan_bootcNode_other bn node planned)) ?_ ?_
    · exact fun s calls before =>
        ⟨⟨⟨assigns.insensitive s _ (.issued name s calls) before.1.1.1,
          before.1.1.2⟩, before.1.2⟩, before.2⟩
    · intro s before
      have rolling := assigns.rolling s before.1.1.1
      refine .act rfl (.assignSlot (rolling.ownsTargeted before.1.1.2) before.1.2
        (rolling.staged name (assigns.isStaged s before.1.1.1) bn
          before.1.1.2) ?_)
      have mayTake := assigns.mayTake s bn before.1.1.1 before.1.1.2
      rw [← rolling.resolved] at mayTake
      exact mayTake
    · intro s before
      refine ⟨⟨⟨assigns.annotated s bn _ before.1.1.1 before.1.1.2
        (slotPlan_inRebootSlot bn node planned), ?_⟩, before.1.2⟩, before.2⟩
      exact ⟨_, s.patched_owned_self _ _ _,
        slotPlan_inRebootSlot bn node planned⟩
  · have slotted : bn.inRebootSlot = true := by
      unfold BootcNode.inRebootSlot
      rw [not_not.mp unchanged]
      exact slotPlan_inRebootSlot bn node planned
    exact .ret fun s before =>
      ⟨⟨⟨assigns.kept s bn before.1.1.1 before.1.1.2 slotted,
        bn, before.1.1.2, slotted⟩, before.1.2⟩, before.2⟩

theorem HoldsSlot.insensitive : Insensitive name (HoldsSlot name) := by
  rintro s s' alike ⟨bn, owned, slotted⟩
  exact ⟨bn, (congrFun alike.owned name).trans owned, slotted⟩

include assigns stopped in
theorem follows_cordonNode {planned : Annotations KarpenterKey} :
    (regime c).Follows
      (fun s => (next s ∧ HoldsSlot name s) ∧
        s.world.api.node name = some node)
      (cordonNode c.env name node planned) (fun _ s => next s) exc := by
  have quiet : Insensitive name fun s => next s ∧ HoldsSlot name s :=
    assigns.insensitiveNext.and HoldsSlot.insensitive
  refine .ite (fun _ => ?_) fun _ => .ret fun _ before => before.1.1
  refine .bindVia (fun _ => next) (.mapError ?_) fun _ =>
    .ret fun _ after => after
  refine follows_patchNode ?_ (stopped.wrap _).stops
    (fun s before => before.2) ?_ ?_
  · exact fun s calls before =>
      ⟨quiet s _ (.issued name s calls) before.1, before.2⟩
  · rintro s ⟨⟨holds, bn, owned, slotted⟩, stored⟩
    exact .act rfl (.cordonNode ((assigns.rollingNext s holds).owns owned)
      slotted stored)
  · exact fun s before =>
      assigns.insensitiveNext s _ (.putNode name s _ _) before.1.1

include stopped in
theorem follows_fenceClaim
    {pre : PassState → Prop} (insensitive : Insensitive name pre)
    {claim : Option (String × NodeClaim)} {planned : SlotPlan}
    (isPlan : planned = slotPlan bn node (claim.map Prod.snd)) :
    (regime c).Follows
      (fun s => (pre s ∧ s.world.api.node name = some node) ∧
        ClaimKnown claim s)
      (fenceClaim c.env name claim planned.claim)
      (fun _ s => pre s ∧ s.world.api.node name = some node) exc := by
  cases claim with
  | none =>
      cases planned.claim <;> exact .ret fun _ before => before.1
  | some found =>
      obtain ⟨claimName, claim⟩ := found
      cases isPlanned : planned.claim with
      | none => exact .ret fun _ before => before.1
      | some annotations =>
          refine .ite (fun _ => .mapError ?_) fun _ =>
            .ret fun _ before => before.1
          refine follows_patchNodeClaim ?_ (stopped.wrap _).stops
            (fun s before => before.2 claimName claim rfl)
            (NodeClaim.merge_annotations claim ?_) ?_ ?_
          · exact fun s calls before =>
              ⟨⟨insensitive s _ (.issued name s calls) before.1.1,
                before.1.2⟩, before.2⟩
          · exact slotPlan_claim_other bn node claim (isPlan ▸ isPlanned)
          · exact fun s before =>
              .act rfl (.patchNodeClaim (.inr rfl)
                (before.2 claimName claim rfl))
          · exact fun s before =>
              ⟨insensitive s _ (.putNodeClaim name s _ _ _) before.1.1,
                before.1.2⟩

include assigns stopped fresh in
theorem follows_assignRebootSlot
    {prefetched : Option (String × NodeClaim)} :
    (regime c).Follows
      (fun s => ((base s ∧ s.owned name = some bn) ∧
        s.world.api.node name = some node) ∧ ClaimKnown prefetched s)
      (assignRebootSlot c.env name bn node prefetched)
      (fun _ s => next s) exc := by
  have quiet : Insensitive name fun s => next s ∧ HoldsSlot name s :=
    assigns.insensitiveNext.and HoldsSlot.insensitive
  refine .bind (follows_claimToFence stopped fresh) fun claim => ?_
  refine .bind (follows_annotateSlot assigns stopped) fun _ => ?_
  refine .bind (follows_fenceClaim stopped quiet rfl) fun _ => ?_
  exact follows_cordonNode assigns stopped

include assigns stopped fresh in
theorem follows_processCandidate :
    (regime c).Follows base (processCandidate c.env name)
      (fun isSlotted s => if isSlotted then next s else base s) exc := by
  refine .bindRead fun found => ?_
  cases found with
  | none => exact .ret fun _ before => by simpa using before.1
  | some bn =>
      refine .bind (.mapError (follows_get fresh (stopped.wrap _).stops
        fun e s routine _ _ => stopped.wrap _ e s routine))
        fun node => ?_
      refine .bind (.mapError (follows_isKarpenterDisruptionActive fresh
        (stopped.wrap _))) fun disruption => ?_
      refine .ite (fun _ => ?_) fun _ => ?_
      · refine .bindVia (fun _ => base) (.update (fun _ _ => rfl)
          fun s before => assigns.requeued s before.1.1.1) fun _ => ?_
        exact .ret fun _ after => by simpa using after
      · refine .bind (.mapError (follows_assignRebootSlot assigns
          (stopped.wrap _) fresh)) fun _ => ?_
        have slotted : (regime c).Follows next (pure true : Pass Bool)
            (fun isSlotted s => if isSlotted then next s else base s) exc :=
          .ret fun _ after => by simpa using after
        refine .ite (fun _ => ?_) fun _ => slotted
        exact .bind (.update (fun _ _ => rfl) fun s after =>
          assigns.requeuedNext s after) fun _ => slotted

end Assigning

/-! ## The main loop -/

/-- The loops over the candidates, with the budget `m`. -/
structure Advancing (c : PassContext) (m : Int) (candidates : List String)
    (s : PassState) : Prop extends Rolling c (some m) s where
  bucket : s.rs.staged = candidates

/-- The loop that gives slots, at most `n` so far. -/
structure Assigning (c : PassContext) (m : Int) (candidates : List String)
    (n : Nat) (s : PassState) : Prop extends Advancing c m candidates s where
  atMost : SlotsAtMost c n s

section Advancing

variable {c : PassContext} {m : Int} {candidates : List String} {n : Nat}
  {name : String} {exc : ApiError → PassState → Prop}

theorem Advancing.insensitive : Insensitive name (Advancing c m candidates) :=
  fun s s' alike advancing =>
    ⟨Rolling.insensitive s s' alike advancing.toRolling,
      alike.rs ▸ advancing.bucket⟩

theorem Assigning.insensitive : Insensitive name (Assigning c m candidates n) :=
  fun s s' alike assigning =>
    ⟨Advancing.insensitive s s' alike assigning.toAdvancing,
      SlotsAtMost.insensitive s s' alike assigning.atMost⟩

theorem Advancing.requeued
    (advancing : Advancing c m candidates s) (d : Duration) :
    Advancing c m candidates { s with rs := s.rs.setRequeueAfter d } :=
  { target := advancing.target
    owned := advancing.owned
    covered := advancing.covered
    unhalted := advancing.unhalted
    resolved := advancing.resolved
    targeted := advancing.targeted
    members := advancing.members
    upToDate := advancing.upToDate
    staged := advancing.staged
    bucket := advancing.bucket }

theorem Assigning.requeued
    (assigning : Assigning c m candidates n s) (d : Duration) :
    Assigning c m candidates n { s with rs := s.rs.setRequeueAfter d } :=
  ⟨assigning.toAdvancing.requeued d, assigning.atMost⟩

theorem Advancing.annotated
    (advancing : Advancing c m candidates s) (owned : s.owned name = some bn)
    (annotations : Annotations BootcNodeKey) :
    Advancing c m candidates
      (s.patched call name { bn with annotations := annotations }) :=
  ⟨advancing.toRolling.annotated owned annotations, advancing.bucket⟩

/-- A slot for a node without one is one more. -/
theorem Assigning.assigns_unslotted
    (member : name ∈ candidates) (room : (n : Int) < m) :
    Assigns c m name (Assigning c m candidates n)
      (Assigning c m candidates (n + 1)) where
  insensitive := Assigning.insensitive
  insensitiveNext := Assigning.insensitive
  rolling _ base := base.toRolling
  rollingNext _ next := next.toRolling
  isStaged _ base := base.bucket ▸ member
  mayTake s bn base _ := by
    refine .inr ⟨m, rfl, lt_of_le_of_lt base.atMost ?_⟩
    exact_mod_cast (Int.lt_toNat.mpr room)
  kept s bn base _ _ :=
    ⟨base.toAdvancing, base.atMost.trans (by exact_mod_cast Nat.le_succ n)⟩
  annotated s bn annotations base owned _ := by
    refine ⟨base.toAdvancing.annotated owned annotations, ?_⟩
    refine (Set.encard_le_encard
      (slottedNodes_putBootcNode_subset_insert c.pool s.world name _)).trans ?_
    refine (Set.encard_insert_le _ _).trans ?_
    rw [Nat.cast_add, Nat.cast_one]
    exact add_le_add_left base.atMost 1
  requeued _ base := base.requeued _
  requeuedNext _ next := next.requeued _

theorem Assigning.assigns_slotted
    {slotted : List String} (member : name ∈ candidates)
    (isSlotted : name ∈ slotted) :
    Assigns c m name
      (fun s => Assigning c m candidates n s ∧
        ∀ other ∈ slotted, slottedWith s.owned (fun _ => true) other = true)
      (fun s => Assigning c m candidates n s ∧
        ∀ other ∈ slotted, slottedWith s.owned (fun _ => true) other = true)
    where
  insensitive s s' alike base :=
    ⟨Assigning.insensitive s s' alike base.1, alike.owned ▸ base.2⟩
  insensitiveNext s s' alike base :=
    ⟨Assigning.insensitive s s' alike base.1, alike.owned ▸ base.2⟩
  rolling _ base := base.1.toRolling
  rollingNext _ next := next.1.toRolling
  isStaged _ base := base.1.bucket ▸ member
  mayTake s bn base owned := by
    have holds := base.2 name isSlotted
    simp only [slottedWith, owned, Bool.and_true] at holds
    exact .inl holds
  kept _ _ base _ _ := base
  annotated s bn annotations base owned slot := by
    have holds := base.2 name isSlotted
    simp only [slottedWith, owned, Bool.and_true] at holds
    refine ⟨⟨base.1.toAdvancing.annotated owned annotations, ?_⟩, ?_⟩
    · have same : slottedNodes c.pool
          (s.patched (.assignSlot name) name
            { bn with annotations := annotations }).world.api =
            slottedNodes c.pool s.world.api :=
        slottedNodes_putBootcNode_of_same c.pool
          (base.1.owns owned).stored rfl (slot.trans holds.symm)
      unfold SlotsAtMost
      rw [same]
      exact base.1.atMost
    · intro other isOther
      by_cases same : other = name
      · subst same
        simpa [slottedWith, BootcNode.inRebootSlot] using slot
      · have kept := base.2 other isOther
        unfold slottedWith at *
        rwa [s.patched_owned_of_ne _ _ same]
  requeued _ base := ⟨base.1.requeued _, base.2⟩
  requeuedNext _ next := ⟨next.1.requeued _, next.2⟩

variable (stopped : Tolerant exc)
  (fresh : c.env.Fresh)

include stopped fresh

/-- The loop over the candidates stays within the budget: `available` slots
are left over the `occupied` ones. -/
theorem follows_assignUnslotted
    {occupied : Nat} {names : List String}
    (members : ∀ name ∈ names, name ∈ candidates) (assigned : Nat) :
    (regime c).Follows (Assigning c m candidates (occupied + assigned))
      (assignUnslotted c.env (max 0 (m - occupied)) assigned names)
      (fun _ s => Advancing c m candidates s) exc := by
  induction names generalizing assigned with
  | nil => exact .ret fun _ before => before.toAdvancing
  | cons name rest ih =>
      have restMembers : ∀ name ∈ rest, name ∈ candidates :=
        fun other member => members other (by simp [member])
      refine .ite (fun _ => .ret fun _ before => before.toAdvancing)
        fun available => ?_
      have room : ((occupied + assigned : Nat) : Int) < m := by omega
      refine .bind (follows_processCandidate
        (Assigning.assigns_unslotted (members name (by simp)) room) stopped
        fresh) fun isSlotted => ?_
      cases isSlotted with
      | false =>
          exact .conseq (ih restMembers assigned)
            (fun _ before => by simpa using before)
            (fun _ _ after => after) fun _ _ after => after
      | true =>
          exact .conseq (ih restMembers (assigned + 1))
            (fun _ before => by simpa [add_assoc] using before)
            (fun _ _ after => after) fun _ _ after => after

theorem follows_assignSlotted
    {slotted : List String}
    (members : ∀ name ∈ slotted, name ∈ candidates) :
    (regime c).Follows
      (fun s => Assigning c m candidates n s ∧
        ∀ other ∈ slotted, slottedWith s.owned (fun _ => true) other = true)
      (forEach slotted fun name => do
        let _ ← processCandidate c.env name
        pure ())
      (fun _ s => Assigning c m candidates n s) exc := by
  refine .conseq (.forEach_keeps fun name member => ?_)
    (fun _ before => before) (fun _ _ after => after.1)
    fun _ _ after => after
  refine .bind (follows_processCandidate
    (Assigning.assigns_slotted (members name member) member) stopped fresh)
    fun isSlotted => .ret fun _ after => ?_
  cases isSlotted <;> simpa using after

theorem follows_drainStaged (member : name ∈ candidates) :
    (regime c).Follows (Advancing c m candidates) (drainStaged c.env name)
      (fun _ s => Advancing c m candidates s) exc := by
  refine .bindRead fun found => ?_
  cases found with
  | none => exact .ret fun _ before => before.1
  | some bn =>
      refine .ite (fun _ => .ret fun _ before => before.1) fun drains => ?_
      refine .bind (.mapError (follows_get fresh (stopped.wrap _).stops
        fun e s routine _ _ => stopped.wrap _ e s routine))
        fun node => ?_
      refine .bind (.mapError (follows_isKarpenterDisruptionActive fresh
        (stopped.wrap _))) fun disruption => ?_
      refine .ite (fun _ => .update (fun _ _ => rfl) fun s before =>
        before.1.1.1.requeued _) fun _ => .bindRead fun drain => ?_
      cases drain with
      | some _ => exact .ret fun _ before => before.1.1.1.1
      | none =>
          refine .step (fun s before => ?_) fun s before => ?_
          · obtain ⟨⟨⟨⟨advancing, owned⟩, _⟩, _⟩, undrained⟩ := before
            have staged := advancing.staged name
              (advancing.bucket ▸ member) bn owned
            push Not at drains
            exact .act rfl (.startDrain (advancing.ownsTargeted owned) staged
              (by simpa using drains.1) drains.2 undrained)
          · exact
              ⟨⟨Targets.ignoresDrain c (some m) name s _ _
                before.1.1.1.1.toTargets, before.1.1.1.1.upToDate,
                before.1.1.1.1.staged⟩, before.1.1.1.1.bucket⟩

end Advancing

theorem mem_sortNames {name : String} {names : List String} :
    name ∈ sortNames names ↔ name ∈ names :=
  List.mem_insertionSort _

section Drive

variable {c : PassContext}
  (fresh : c.env.Fresh)

include fresh

theorem follows_advanceRollout :
    (regime c).Follows
      (fun s => (Rolling c none s ∧ Occupied c s) ∧ Collected s.world)
      (c.reconciler.advanceRollout c.env)
      (fun _ s => Recalls c s) (BlamesSpec c) := by
  have stopped := BlamesSpec.tolerant c
  refine .bindReadOf (·.SameTarget c.pool)
    (fun s before => before.1.1.target) fun pool same =>
      .bindRead fun rs => ?_
  refine .bindVia
    (fun m s => ((Rolling c none s ∧ Occupied c s) ∧ s.rs = rs) ∧
      Collected s.world ∧ ∃ nodeCount,
        c.reconciler.resolveMaxUnavailable c.pool nodeCount = .ok m)
    (.ofExcept (fun m resolved s before =>
        ⟨⟨before.1.1.1, before.2⟩, before.1.1.2, ?_⟩)
      fun e failed s before _ => ?_) fun m => ?_
  · exact ⟨_, (resolveMaxUnavailable_congr same.spec _ _).symm.trans resolved⟩
  · obtain ⟨⟨⟨⟨rolling, _⟩, _⟩, _⟩, _⟩ := before
    exact ⟨rolling.target, rolling.unhalted, rolling.resolved⟩
  refine .know (∃ occupied : Nat, rs.occupiedSlots = occupied)
    (fun s before => ?_) fun counted => ?_
  · obtain ⟨occupied, isOccupied, _⟩ := before.1.1.2
    exact ⟨occupied, before.1.2 ▸ isOccupied⟩
  obtain ⟨occupied, isOccupied⟩ := counted
  refine .bindVia (fun _ => Assigning c m rs.staged occupied)
    (.step ?_ ?_) fun _ => ?_
  · exact fun s before =>
      .resolveMaxUnavailable before.1.1.1.resolved before.1.1.1.unhalted
        before.2.1 before.2.2
  · rintro s ⟨⟨⟨rolling, occupiedSlots, isOccupied', atMost⟩, isRs⟩, _⟩
    have sameCount : occupiedSlots = occupied := by
      rw [isRs, isOccupied] at isOccupied'
      exact_mod_cast isOccupied'.symm
    subst sameCount
    exact
      { target := rolling.target
        owned := rolling.owned
        covered := rolling.covered
        unhalted := rolling.unhalted
        resolved := rfl
        targeted := rolling.targeted
        members := rolling.members
        upToDate := rolling.upToDate
        staged := rolling.staged
        bucket := congrArg RolloutState.staged isRs
        atMost := atMost }
  refine .bindRead fun owned => ?_
  refine .bind (.conseq (follows_assignSlotted stopped fresh ?_)
    (fun s before => ⟨before.1, ?_⟩) (fun _ _ after => after)
    fun _ _ after => after) fun _ => ?_
  · exact fun name member =>
      (List.mem_filter.mp (mem_sortNames.mp member)).1
  · intro name member
    rw [before.2]
    exact (List.mem_filter.mp (mem_sortNames.mp member)).2
  rw [isOccupied]
  refine .bind (follows_assignUnslotted stopped fresh ?_ 0) fun _ => ?_
  · exact fun name member =>
      (List.mem_filter.mp (mem_sortNames.mp member)).1
  refine .bindVia (fun _ => Advancing c m rs.staged)
    (.update (fun s _ => ?_) fun s before => ?_) fun _ => ?_
  · split <;> rfl
  · split
    · exact before.requeued _
    · exact before
  exact .conseq (.forEach_keeps fun name member =>
    follows_drainStaged stopped fresh member) (fun _ before => before)
    (fun _ _ after => ⟨after.target, after.owned⟩) fun _ _ after => after

theorem follows_driveRollout :
    (regime c).Follows
      (fun s => Targets c none s ∧
        s.world.Within (c.env.order .drainResults))
      (c.reconciler.driveRollout c.env)
      (fun _ s => Recalls c s) (BlamesSpec c) := by
  have stopped := BlamesSpec.tolerant c
  have collected : ∀ {seen seen'}, (regime c).step seen seen' →
      Collected seen.world → Collected seen'.world :=
    fun step kept name => step.running (kept name)
  have freed := (follows_freeCompletedSlots
    (stopped.wrap "freeing completed slots: ") fresh).withInvariant
      (fun seen => Collected seen.world) collected
  refine .bind (.mapError (follows_collectDrainResults (stopped.wrap _)))
    fun _ => .bind (.conseq (follows_classifyNodes.withInvariant
      (fun seen => Collected seen.world) collected) (fun _ before => before)
      (fun _ _ after => after) fun _ _ after => after.1) fun _ => ?_
  refine .bind (.mapError (.conseq freed (fun _ before => before)
      (fun _ _ after => after) fun _ _ after => after.1))
    fun _ => .bindRead fun unhealthy => ?_
  refine .ite (fun _ => .step ?_ ?_) fun _ => .conseq
    (follows_advanceRollout fresh) (fun _ before => before.1)
    (fun _ _ after => after) fun _ _ after => after
  · exact fun s before => .halt before.1.1.1.resolved before.1.2
  · exact fun s before =>
      ⟨before.1.1.1.target.setPoolDegraded _ _ _, before.1.1.1.owned⟩

end Drive

end BootcNodePoolReconciler

end BootcOperator
