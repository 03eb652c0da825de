import BootcOperator.Effects.BootcNodes
import BootcOperator.Effects.Persisted
import BootcOperator.Effects.Transitions

/-!
# What a pass observes on a node and announces

`recordNodeEvents` compares the Idle condition and the image of a BootcNode
with the observation that its annotation holds, emits the event of a
transition and writes the new observation.  No other part of a pass emits such
an event or touches the annotation, so the whole pass does to them what one
iteration of that loop does.
-/

namespace BootcOperator

open Program BootcNodePoolReconciler

variable {s s' : PassState} {name : String}

/-- What `recordNodeEvents` looks at. -/
structure Observation where
  status : ConditionStatus
  reason : String
  image : String
  deriving DecidableEq, Repr

/-- The text that `last-observed-state` holds. -/
def Observation.text (o : Observation) : String :=
  o.status.text ++ ":" ++ o.reason ++ ":" ++ o.image

def Observation.isActive (o : Observation) : Bool :=
  o.status = .conditionFalse

/-- The event that an observation calls for: one for each stage of an update,
and one for the return to idle after an active observation. -/
def Observation.due (o : Observation) (afterActive : Bool) :
    Option (String × EventNote) :=
  if o.status ≠ .conditionFalse then
    if o.reason = nodeReasonIdle ∧ afterActive then
      some (nodeReasonIdle, .nodeIdle o.image)
    else none
  else if o.reason = nodeReasonStaging then
    some (nodeReasonStaging, .nodeStaging o.image)
  else if o.reason = nodeReasonStaged then
    some (nodeReasonStaged, .nodeStaged o.image)
  else if o.reason = nodeReasonRebooting then
    some (nodeReasonRebooting, .nodeRebooting o.image)
  else none

/-- What can be observed on a BootcNode; nothing without an Idle condition. -/
def BootcNode.observation (bn : BootcNode) : Option Observation :=
  (findStatusCondition bn.status.conditions nodeIdle).map fun idle =>
    { status := idle.status
      reason := idle.reason
      image := bn.spec.desiredImage }

/-- The observation stored for the node. -/
def World.marker (w : World) (name : String) : Option String :=
  (w.api.bootcNode name).bind fun bn =>
    bn.annotations.known .lastObservedState

/-- The events of an iteration that finds `marker` and observes `o`. -/
def Observation.announced (o : Observation) (marker : Option String) :
    List (String × EventNote) :=
  if marker.getD "" = o.text then []
  else (o.due (isActiveObservation (marker.getD ""))).toList

theorem nodeEvent_eq (bn : BootcNode) (previous : String) :
    nodeEvent bn previous =
      match bn.observation with
      | none => ("", none)
      | some o => (o.text, o.due (isActiveObservation previous)) := by
  unfold nodeEvent BootcNode.observation
  cases findStatusCondition bn.status.conditions nodeIdle with
  | none => rfl
  | some idle =>
      simp only [Option.map_some, Observation.text, Observation.due]
      split_ifs <;> rfl

theorem Observation.text_ne_empty (o : Observation) : o.text ≠ "" := by
  intro empty
  have characters := congrArg String.toList empty
  simp [Observation.text] at characters

theorem Observation.isActiveObservation_text (o : Observation) :
    isActiveObservation o.text = o.isActive := by
  unfold isActiveObservation Observation.text Observation.isActive
  cases o.status <;>
    simp [ConditionStatus.text, List.isPrefixOf]

def Action.announces (name : String) : Action → Option (String × EventNote)
  | .event recorded =>
      if recorded.regarding = .bootcNode name ∧
          recorded.action = eventActionNodeUpdate then
        some (recorded.reason, recorded.note)
      else none
  | _ => none

/-- The events about transitions of the node, in order. -/
def announcements (name : String) (log : List Entry) :
    List (String × EventNote) :=
  log.filterMap fun entry => entry.action.announces name

theorem Action.announces_of_not_observes
    {action : Action} (unobserving : action.observes = false)
    (name : String) : action.announces name = none := by
  cases action with
  | event recorded =>
      simp only [Action.observes, decide_eq_false_iff_not] at unobserving
      simp [Action.announces, unobserving]
  | _ => rfl

/-! ## The parts of a pass that observe nothing -/

/-- Only actions are performed that `recordNodeEvents` does not perform. -/
def Unobserving (s s' : PassState) : Prop :=
  ∃ done, s'.log = s.log ++ done ∧
    ∀ entry ∈ done, entry.action.observes = false

instance : IsPreorder PassState Unobserving where
  refl := fun s => ⟨[], by simp, by simp⟩
  trans := fun _ _ _ first second => by
    obtain ⟨before, isBefore, unobservedBefore⟩ := first
    obtain ⟨after, isAfter, unobservedAfter⟩ := second
    refine ⟨before ++ after, ?_, ?_⟩
    · rw [isAfter, isBefore, List.append_assoc]
    · intro entry member
      rcases List.mem_append.mp member with earlier | later
      · exact unobservedBefore entry earlier
      · exact unobservedAfter entry later

theorem Unobserving.trans
    {s'' : PassState} (first : Unobserving s s') (second : Unobserving s' s'') :
    Unobserving s s'' :=
  IsTrans.trans _ _ _ first second

theorem Unobserving.announcements
    (unobserving : Unobserving s s') (name : String) :
    announcements name s'.log = announcements name s.log := by
  obtain ⟨done, isDone, unobserved⟩ := unobserving
  have nothing : BootcOperator.announcements name done = [] := by
    refine List.filterMap_eq_nil_iff.mpr fun entry member => ?_
    exact Action.announces_of_not_observes (unobserved entry member) name
  rw [isDone]
  unfold BootcOperator.announcements at nothing ⊢
  rw [List.filterMap_append, nothing, List.append_nil]

/-- The actions of all parts but `recordNodeEvents`. -/
def notObserving : Action → Bool := fun action => !action.observes

theorem admits_notObserving (kind : Action → Bool) :
    Admits notObserving kind := by
  intro action _ unobserving
  simp [notObserving, unobserving]

theorem unobserving_of_quiet
    {α : Type} {m : Pass α} (quiet : Quiet notObserving m) :
    Moves Unobserving m := by
  intro s
  obtain ⟨done, isDone, admitted⟩ := (quiet s).log
  refine ⟨done, isDone, fun entry member => ?_⟩
  simpa [notObserving] using admitted entry member

theorem Unobserving.silent (log : s'.log = s.log) : Unobserving s s' :=
  ⟨[], by simp [log], by simp⟩

theorem Unobserving.perform
    {entry : Entry} (log : s'.log = s.log ++ [entry])
    (unobserving : entry.action.observes = false) : Unobserving s s' :=
  ⟨[entry], log, by simpa using unobserving⟩

theorem action_of_mem_poolEvents
    {pool : BootcNodePool} {previous : BootcNodePoolStatus}
    {tagTargetChanged : Bool} {event : Event}
    (member : event ∈ poolEvents pool previous tagTargetChanged) :
    event.action ≠ eventActionNodeUpdate := by
  unfold poolEvents at member
  simp only [List.mem_append] at member
  rcases member with ((updated | started) | completed) | degraded
  · split at updated <;> simp at updated
    simp +decide [updated]
  · split at started <;> simp at started
    simp +decide [started]
  · split at completed <;> simp at completed
    simp +decide [completed]
  · split at degraded <;> simp at degraded
    simp +decide [degraded]

section Unobserving

variable (r : BootcNodePoolReconciler) (env : Env) (request : String)

variable (previous : BootcNodePoolStatus)

theorem unobserving_syncMembership :
    Moves Unobserving (r.syncMembership env) := by
  have admits := admits_notObserving anyAction
  refine Moves.bind (Moves.mapError (unobserving_of_quiet
    (r.quiet_listMatchingNodes env _))) fun matching => ?_
  refine Moves.bind (Moves.mapError (unobserving_of_quiet
    (quiet_listAllBootcNodes env _))) fun all => ?_
  refine Moves.bind (Moves.update fun _ => .silent rfl) fun _ => ?_
  refine Moves.bind (Moves.gather fun name => ?_) fun conflicting => ?_
  · cases matching name with
    | none => exact Moves.ret _
    | some node =>
        exact unobserving_of_quiet
          (r.quiet_syncMatchingNode env admits all name node)
  refine Moves.bind (Moves.forEach fun name => unobserving_of_quiet
    (quiet_removeDeparted env admits matching name)) fun _ => ?_
  exact Moves.ite (Moves.update fun _ => .silent rfl) (Moves.ret _)

theorem unobserving_driveRollout :
    Moves Unobserving (r.driveRollout env) := by
  refine Moves.bind (Moves.mapError (unobserving_of_quiet
    (quiet_collectDrainResults env (admits_notObserving _)))) fun _ => ?_
  refine Moves.bind (Moves.update fun _ => .silent rfl) fun _ => ?_
  refine Moves.bind (Moves.mapError (unobserving_of_quiet
    (quiet_freeCompletedSlots env (admits_notObserving _)))) fun _ => ?_
  refine Moves.bind (Moves.read _) fun unhealthy => ?_
  exact Moves.ite (Moves.update fun _ => .silent rfl) (unobserving_of_quiet
    (r.quiet_advanceRollout env (admits_notObserving _)))

theorem unobserving_complete
    (tagTargetChanged : Bool) (requeueAfter : Duration) :
    Moves Unobserving
      (complete env request previous tagTargetChanged requeueAfter) := by
  refine Moves.bind (Moves.mapError ?_) fun _ => Moves.ret _
  refine Moves.bind (Moves.read _) fun pool => Moves.ite (Moves.ret _) ?_
  refine Moves.bind ?_ fun _ => Moves.forEach_mem fun event member => ?_
  · refine Moves.bind (unobserving_of_quiet (quiet_sendWrite env _))
      fun _ => Moves.bind (Moves.read _) fun found => ?_
    cases found with
    | none => exact Moves.fail _
    | some server => exact Moves.update fun _ => .perform rfl rfl
  · refine Moves.update fun _ => .perform rfl ?_
    simpa [Action.observes] using action_of_mem_poolEvents member

theorem unobserving_reportDegraded (reason message : String) :
    Moves Unobserving
      (reportDegraded env request previous reason message) :=
  Moves.bind (Moves.update fun _ => .silent rfl) fun _ =>
    unobserving_complete env request _ _ _

theorem unobserving_handleStepError (text : String) (err : ApiError) :
    Moves Unobserving (handleStepError env request previous text err) :=
  Moves.ite (unobserving_reportDegraded env request _ _ _) (Moves.fail _)

theorem unobserving_finishPass
    (tagTargetChanged : Bool) (requeueAfter : Duration) :
    Moves Unobserving
      (finishPass env request previous tagTargetChanged requeueAfter) := by
  refine Moves.bind (unobserving_of_quiet
    (quiet_recordDrainStalls env (admits_notObserving _))) fun _ => ?_
  refine Moves.bind (Moves.update fun _ => .silent rfl) fun _ => ?_
  exact Moves.bind (Moves.read _) fun _ =>
    unobserving_complete env request _ _ _

theorem unobserving_updatePool (pool : BootcNodePool) :
    Moves Unobserving (Pass.updatePool env request pool) := by
  refine Moves.bind (unobserving_of_quiet (quiet_sendWrite env _))
    fun _ => Moves.bind (Moves.read _) fun found => ?_
  cases found with
  | none => exact Moves.fail _
  | some server => exact Moves.update fun _ => .perform rfl rfl

theorem unobserving_handlePoolDeletion :
    Moves Unobserving (handlePoolDeletion env request) := by
  refine Moves.bind (Moves.read _) fun pool => Moves.ite (Moves.ret _) ?_
  refine Moves.bind (Moves.mapError (unobserving_of_quiet
    (quiet_listAllBootcNodes env _))) fun all => ?_
  refine Moves.bind (Moves.forEach fun name => ?_) fun _ => ?_
  · unfold removeForDeletion
    cases all name with
    | none => exact Moves.ret _
    | some bn =>
        refine Moves.ite (Moves.mapError (unobserving_of_quiet ?_))
          (Moves.ret _)
        exact quiet_removeBootcNode env (admits_notObserving _) name bn
  refine Moves.bind (Moves.update fun _ => .silent rfl) fun _ => ?_
  refine Moves.bind (unobserving_updatePool env request _).attempt
    fun result => ?_
  cases result with
  | ok _ => exact Moves.ret _
  | error err => exact Moves.ite (Moves.ret _) (Moves.fail _)

theorem unobserving_addFinalizer :
    Moves Unobserving (addFinalizer env request) :=
  Moves.bind (Moves.update fun _ => .silent rfl) fun _ =>
    Moves.bind (Moves.read _) fun _ =>
      Moves.mapError (unobserving_updatePool env request _)

theorem unobserving_adoptResolution (resolution : Resolution) :
    Moves Unobserving (adoptResolution resolution) := by
  intro s
  unfold adoptResolution
  cases resolution.answer with
  | none => exact .silent rfl
  | some answer => exact .perform rfl rfl

end Unobserving

section Loop

variable (env : Env)

variable {bn : BootcNode}

/-- The event of an observation comes before the write of its marker. -/
def announce (env : Env) (name : String) (bn : BootcNode)
    (o : Observation) : Pass Unit :=
  match o.due (isActiveObservation (observationOf bn)) with
  | some (reason, eventNote) => do
      recordNodeEvent name .normal reason eventActionNodeUpdate eventNote
      markObserved env name bn o.text
  | none => markObserved env name bn o.text

theorem recordTransition_eq (name : String) (bn : BootcNode) :
    recordTransition env name bn =
      match bn.observation with
      | none => pure ()
      | some o =>
          if observationOf bn = o.text then pure ()
          else announce env name bn o := by
  unfold recordTransition announce
  dsimp only
  rw [nodeEvent_eq]
  cases bn.observation with
  | none => simp
  | some o =>
      dsimp only
      cases o.due (isActiveObservation (observationOf bn)) <;>
        simp [o.text_ne_empty]

theorem announce_returns
    (name : String) (bn : BootcNode) (o : Observation) (s : PassState) :
    (announce env name bn o s).1 = .ok () := by
  unfold announce
  cases o.due (isActiveObservation (observationOf bn)) <;> rfl

theorem recordTransition_returns
    (name : String) (bn : BootcNode) (s : PassState) :
    (recordTransition env name bn s).1 = .ok () := by
  rw [recordTransition_eq]
  cases bn.observation with
  | none => rfl
  | some o =>
      dsimp only
      split
      · rfl
      · exact announce_returns env name bn o s

def observeNode (env : Env) (name : String) : Pass Unit := do
  match ← read fun s => s.owned name with
  | some bn => recordTransition env name bn
  | none => pure ()

theorem observeNode_apply (name : String) (s : PassState) :
    observeNode env name s =
      match s.owned name with
      | some bn => recordTransition env name bn s
      | none => (.ok (), s) := by
  unfold observeNode
  rw [bind_apply, read_apply]
  cases s.owned name <;> rfl

theorem observeNode_returns (name : String) (s : PassState) :
    (observeNode env name s).1 = .ok () := by
  rw [observeNode_apply]
  cases s.owned name with
  | none => rfl
  | some bn => exact recordTransition_returns env name bn s

theorem forEach_observeNode_returns (names : List String) (s : PassState) :
    (forEach names (observeNode env) s).1 = .ok () := by
  induction names generalizing s with
  | nil => rfl
  | cons name rest ih =>
      have first : observeNode env name s =
          (.ok (), (observeNode env name s).2) :=
        Prod.ext (observeNode_returns env name s) rfl
      have unrolled : forEach (name :: rest) (observeNode env) s =
          forEach rest (observeNode env) (observeNode env name s).2 :=
        bind_apply_of_ok first
      rw [unrolled]
      exact ih _

theorem recordNodeEvents_returns (s : PassState) :
    (recordNodeEvents env s).1 = .ok () :=
  forEach_observeNode_returns env _ s

/-- What the loop does to a node. -/
def watched (name : String) (s : PassState) :
    Option BootcNode × Option BootcNode × List (String × EventNote) :=
  (s.owned name, s.world.api.bootcNode name, announcements name s.log)

theorem announcements_append_one
    (name : String) (log : List Entry) (entry : Entry) :
    announcements name (log ++ [entry]) =
      announcements name log ++ (entry.action.announces name).toList := by
  unfold announcements
  rw [List.filterMap_append]
  cases announced : entry.action.announces name <;> simp [announced]

theorem watched_note {action : Action} (s : PassState) :
    watched name (s.perform action s.world) =
      ((watched name s).1, (watched name s).2.1,
        (watched name s).2.2 ++ (action.announces name).toList) := by
  simp only [watched, PassState.perform, announcements_append_one]

theorem announce_elsewhere
    {other : String} (different : other ≠ name) (bn : BootcNode)
    (o : Observation) :
    Moves (Keeping (watched name)) (announce env other bn o) := by
  have patch (observation : String) :
      Moves (Keeping (watched name)) (markObserved env other bn observation) := by
    refine Moves.bind (Moves.attempt ?_) fun _ => Moves.ret _
    refine Moves.bind (Moves.bind (Moves.update fun _ => rfl) fun _ => ?_)
      fun _ => Moves.bind (Moves.read _) fun found => ?_
    · unfold Pass.send
      split
      · exact Moves.ret _
      · exact Moves.fail _
    · cases found with
      | none => exact Moves.fail _
      | some server =>
          refine Moves.update fun s => ?_
          simp [Keeping, watched, PassState.setOwned, PassState.perform,
            World.putBootcNode, announcements_append_one, Action.announces,
            different.symm]
  unfold announce
  cases o.due (isActiveObservation (observationOf bn)) with
  | none => exact patch _
  | some due =>
      refine Moves.bind (Moves.bind (Moves.read _) fun pool => ?_)
        fun _ => patch _
      refine Moves.update fun s => ?_
      rw [Keeping, watched_note]
      simp [Action.announces, different, watched]

theorem observeNode_elsewhere {other : String} (different : other ≠ name) :
    Moves (Keeping (watched name)) (observeNode env other) := by
  refine Moves.bind (Moves.read _) fun found => ?_
  cases found with
  | none => exact Moves.ret _
  | some bn =>
      dsimp only
      rw [recordTransition_eq]
      cases bn.observation with
      | none => exact Moves.ret _
      | some o =>
          exact Moves.ite (Moves.ret _)
            (announce_elsewhere env different bn o)

theorem markObserved_apply
    (stored : s.world.api.bootcNode name = some bn) (observation : String) :
    (markObserved env name bn observation s).2 =
      let sent := { s with issued := s.issued ++ [.markObserved name] }
      match env.fails (.markObserved name) with
      | some _ => sent
      | none =>
          sent.patched (.markObserved name) name
            { bn with
              annotations :=
                bn.annotations.set .lastObservedState observation } := by
  have other :
      (bn.annotations.set .lastObservedState observation).other =
        bn.annotations.other := rfl
  have merged := BootcNode.merge_annotations bn other
  unfold markObserved Pass.patchBootcNode Pass.sendWrite Pass.send
  cases env.fails (.markObserved name) with
  | some message => rfl
  | none => simp [bind_apply, stored, merged, PassState.patched]

/-- The BootcNode with its new observation, if the write succeeds. -/
def marked (env : Env) (name : String) (bn : BootcNode)
    (observation : String) : BootcNode :=
  match env.fails (.markObserved name) with
  | some _ => bn
  | none =>
      { bn with
        annotations := bn.annotations.set .lastObservedState observation }

theorem marked_of_same
    {observation : String}
    (same : bn.annotations.known .lastObservedState = some observation)
    (name : String) : marked env name bn observation = bn := by
  have unchanged :
      bn.annotations.set .lastObservedState observation = bn.annotations := by
    rw [Annotations.set, ← same, Function.update_eq_self]
  unfold marked
  rw [unchanged]
  cases env.fails (.markObserved name) <;> rfl

/-- The due events are emitted and the observation is stored. -/
structure Announced (env : Env) (name : String) (bn : BootcNode)
    (o : Observation) (s s' : PassState) : Prop where
  events :
    announcements name s'.log =
      announcements name s.log ++
        o.announced (bn.annotations.known .lastObservedState)
  stored : s'.world.api.bootcNode name = some (marked env name bn o.text)

theorem markObserved_spec
    (stored : s.world.api.bootcNode name = some bn) (observation : String) :
    announcements name (markObserved env name bn observation s).2.log =
        announcements name s.log ∧
      (markObserved env name bn observation s).2.world.api.bootcNode name =
        some (marked env name bn observation) := by
  rw [markObserved_apply env stored]
  unfold marked
  cases env.fails (.markObserved name) with
  | some message => exact ⟨rfl, stored⟩
  | none =>
      simp [PassState.patched, PassState.setOwned, PassState.perform,
        announcements_append_one, Action.announces, World.putBootcNode]

theorem announce_spec
    (stored : s.world.api.bootcNode name = some bn) (o : Observation) :
    announcements name (announce env name bn o s).2.log =
        announcements name s.log ++
          (o.due (isActiveObservation (observationOf bn))).toList ∧
      (announce env name bn o s).2.world.api.bootcNode name =
        some (marked env name bn o.text) := by
  unfold announce
  cases o.due (isActiveObservation (observationOf bn)) with
  | none => simpa using markObserved_spec env stored o.text
  | some due =>
      obtain ⟨events, isMarked⟩ := markObserved_spec env
        (s := s.perform
          (.event
            { regarding := .bootcNode name
              related := some (.pool s.pool.name)
              type := .normal
              reason := due.1
              action := eventActionNodeUpdate
              note := due.2 }) s.world) stored o.text
      refine ⟨events.trans ?_, isMarked⟩
      rw [PassState.perform, announcements_append_one]
      simp [Action.announces]

theorem announced_of_recordTransition
    {o : Observation} (stored : s.world.api.bootcNode name = some bn)
    (observed : bn.observation = some o) :
    Announced env name bn o s (recordTransition env name bn s).2 := by
  have previous : (bn.annotations.known .lastObservedState).getD "" =
      observationOf bn := rfl
  rw [recordTransition_eq, observed]
  dsimp only
  by_cases same : observationOf bn = o.text
  · have known : bn.annotations.known .lastObservedState = some o.text := by
      rw [same] at previous
      cases known : bn.annotations.known .lastObservedState with
      | none =>
          rw [known] at previous
          exact (o.text_ne_empty previous.symm).elim
      | some text =>
          rw [known] at previous
          exact congrArg some previous
    rw [if_pos same]
    refine ⟨?_, ?_⟩
    · simp [Observation.announced, previous, same]
    · rw [marked_of_same env known]
      exact stored
  · rw [if_neg same]
    obtain ⟨events, isMarked⟩ := announce_spec env stored o
    refine ⟨?_, isMarked⟩
    rw [events, Observation.announced, previous, if_neg same]

theorem announced_of_recordNodeEvents
    {o : Observation} (nodup : (env.order .nodeEvents).Nodup)
    (member : name ∈ env.order .nodeEvents) (owned : s.owned name = some bn)
    (stored : s.world.api.bootcNode name = some bn)
    (observed : bn.observation = some o) :
    Announced env name bn o s (recordNodeEvents env s).2 := by
  obtain ⟨mid, atMid, final⟩ := part_of_forEach (watched name) nodup member
    (fun _ different => observeNode_elsewhere env different)
    (observeNode_returns env) s
  have ownedMid : mid.owned name = some bn :=
    (congrArg Prod.fst atMid).trans owned
  have storedMid : mid.world.api.bootcNode name = some bn :=
    (congrArg (·.2.1) atMid).trans stored
  rw [observeNode_apply, ownedMid] at final
  obtain ⟨events, isMarked⟩ := announced_of_recordTransition env storedMid
    observed
  constructor
  · have eventsMid : announcements name mid.log = announcements name s.log :=
      congrArg (·.2.2) atMid
    rw [← eventsMid, ← events]
    exact congrArg (·.2.2) final
  · rw [← isMarked]
    exact congrArg (·.2.1) final

/-- A node that the pass does not own, or without an Idle condition, is left
alone. -/
theorem watched_of_recordNodeEvents
    (nodup : (env.order .nodeEvents).Nodup)
    (unobserved : (s.owned name).bind BootcNode.observation = none) :
    watched name (recordNodeEvents env s).2 = watched name s := by
  by_cases member : name ∈ env.order .nodeEvents
  · obtain ⟨mid, atMid, final⟩ := part_of_forEach (watched name) nodup member
      (fun _ different => observeNode_elsewhere env different)
      (observeNode_returns env) s
    have ownedMid : mid.owned name = s.owned name := congrArg Prod.fst atMid
    refine Eq.trans final (Eq.trans ?_ atMid)
    rw [observeNode_apply, ownedMid]
    cases owned : s.owned name with
    | none => rfl
    | some bn =>
        rw [owned, Option.bind_some] at unobserved
        dsimp only
        rw [recordTransition_eq, unobserved]
        rfl
  · have keeps : Moves (Keeping (watched name)) (recordNodeEvents env) :=
      .forEach_mem fun other visits => observeNode_elsewhere env
        fun same => member (same ▸ visits)
    exact keeps s

end Loop

/-! ## The visit -/

/-- The state in which a `Reconcile` calls `recordNodeEvents`, if it gets
there. -/
def visitOf (r : BootcNodePoolReconciler) (env : Env) (request : String)
    (w : World) : Option PassState :=
  match w.api.pool request with
  | none => none
  | some pool =>
      match r.settle env w pool with
      | none => none
      | some resolution =>
          if resolution.pool.status.targetDigest = "" then none
          else
            match r.syncMembership env
              (clearedState env w pool resolution) with
            | (.ok _, visited) => some visited
            | (.error _, _) => none

/-- What a pass observes of the node, if it gets there. -/
def observedIn (r : BootcNodePoolReconciler) (env : Env) (request : String)
    (w : World) (name : String) : Option Observation :=
  (visitOf r env request w).bind fun visited =>
    (visited.owned name).bind BootcNode.observation

section Visit

variable {r : BootcNodePoolReconciler} {env : Env} {request : String}
  {w : World} {visited : PassState}

variable {pool : BootcNodePool}

theorem readsLive_of_settle
    {resolution : Resolution} (faithful : env.Faithful w)
    (stored : w.api.pool request = some pool)
    (settled : r.settle env w pool = some resolution) :
    ReadsLive env request w pool := by
  by_cases stops : (env.fails .getPool).isSome ∨ isLive pool = false
  · rw [settle, if_pos stops] at settled
    cases settled
  · push Not at stops
    exact
      { answered := Option.not_isSome_iff_eq_none.mp stops.1
        read := by rw [faithful.fresh, stored]
        stored := stored
        live := by simpa using stops.2 }

theorem visitOf_eq_some (visit : visitOf r env request w = some visited) :
    ∃ pool resolution, w.api.pool request = some pool ∧
      r.settle env w pool = some resolution ∧
      resolution.pool.status.targetDigest ≠ "" ∧
      r.syncMembership env (clearedState env w pool resolution) =
        (.ok (), visited) := by
  unfold visitOf at visit
  cases stored : w.api.pool request with
  | none => simp [stored] at visit
  | some pool =>
      cases settled : r.settle env w pool with
      | none => simp [stored, settled] at visit
      | some resolution =>
          simp only [stored, settled] at visit
          split_ifs at visit with noTarget
          split at visit
          · next synced =>
              cases visit
              exact ⟨pool, resolution, rfl, settled, noTarget, synced⟩
          · cases visit

theorem unobserving_settledState
    (env : Env) (w : World) (pool : BootcNodePool)
    (resolution : Resolution) :
    Unobserving (.start w) (settledState env w pool resolution) :=
  unobserving_adoptResolution resolution
    { PassState.start w with
      pool := clearPoolDegradedReason env.now poolSecretError pool }

theorem unobserving_around_visit
    (faithful : env.Faithful w)
    (visit : visitOf r env request w = some visited) :
    Unobserving (.start w) visited ∧
      Unobserving (recordNodeEvents env visited).2
        (r.reconcile env request (.start w)).2 := by
  obtain ⟨pool, resolution, stored, settled, hasTarget, synced⟩ :=
    visitOf_eq_some visit
  have reads := readsLive_of_settle faithful stored settled
  constructor
  · have settles := unobserving_settledState env w pool resolution
    have syncs := unobserving_syncMembership r env
      (clearedState env w pool resolution)
    rw [synced] at syncs
    have cleared : Unobserving (settledState env w pool resolution)
        (clearedState env w pool resolution) := .silent rfl
    exact (settles.trans cleared).trans syncs
  · rw [reconcile_of_settled r reads.toReadsPool settled, if_neg hasTarget,
      reconcileTarget]
    have samePool := (settledState_spec env w pool resolution).1
    unfold clearedState at synced
    have records : recordNodeEvents env visited =
        (.ok (), (recordNodeEvents env visited).2) :=
      Prod.ext (recordNodeEvents_returns env visited) rfl
    rw [bind_apply, update_apply, samePool]
    simp only [bind_apply, attempt_apply, synced]
    rw [records]
    have drives := unobserving_driveRollout r env
      (recordNodeEvents env visited).2
    refine drives.trans ?_
    dsimp only
    cases (r.driveRollout env (recordNodeEvents env visited).2).1 with
    | error err => exact unobserving_handleStepError env request _ _ err _
    | ok _ => exact unobserving_finishPass env request _ _ _ _

theorem unobserving_reconcilePool (notLive : isLive pool = false) :
    Moves Unobserving (r.reconcilePool env request pool) := by
  refine Moves.bind (Moves.update fun _ => .silent rfl) fun _ => ?_
  split_ifs with deleted finalized
  · exact Moves.bind (unobserving_handlePoolDeletion env request) fun _ =>
      Moves.ret _
  · simp [isLive, Option.not_isSome_iff_eq_none.mp deleted,
      finalized] at notLive
  · exact Moves.bind (unobserving_addFinalizer env request) fun _ =>
      Moves.ret _

theorem unobserving_of_unsynced
    (reads : ReadsLive env request w pool)
    (unvisited : visitOf r env request w = none) :
    Unobserving (.start w) (r.reconcile env request (.start w)).2 := by
  have unchanged (pool : BootcNodePool) :
      Unobserving (.start w) { PassState.start w with pool := pool } :=
    .silent rfl
  cases settled : r.settle env w pool with
  | none =>
      rcases reconcile_of_unsettled r reads.toReadsPool settled with
        ⟨message, reported⟩ | ⟨err, handled⟩
      · rw [reported]
        exact (unchanged _).trans
          (unobserving_reportDegraded env request _ _ _ _)
      · rw [handled]
        exact (unchanged _).trans
          (unobserving_handleStepError env request _ _ _ _)
  | some resolution =>
      have settles := unobserving_settledState env w pool resolution
      rw [reconcile_of_settled r reads.toReadsPool settled]
      split_ifs with noTarget
      · exact settles.trans (unobserving_complete env request _ _ _ _)
      · have samePool := (settledState_spec env w pool resolution).1
        have syncs := unobserving_syncMembership r env
          (clearedState env w pool resolution)
        have cleared : Unobserving (.start w)
            (clearedState env w pool resolution) :=
          settles.trans (.silent rfl)
        simp only [visitOf, reads.stored, settled, if_neg noTarget]
          at unvisited
        rw [reconcileTarget, bind_apply, update_apply, samePool]
        rcases synced : r.syncMembership env
          (clearedState env w pool resolution) with ⟨result, s⟩
        rw [synced] at syncs unvisited
        cases result with
        | ok _ => cases unvisited
        | error err =>
            unfold clearedState at synced
            simp only [bind_apply, attempt_apply, synced]
            exact (cleared.trans syncs).trans
              (unobserving_handleStepError env request _ _ _ _)

theorem unobserving_of_unvisited
    (faithful : env.Faithful w) (unvisited : visitOf r env request w = none) :
    Unobserving (.start w) (r.reconcile env request (.start w)).2 := by
  cases stored : w.api.pool request with
  | none =>
      rw [r.reconcile_of_missing request faithful stored]
      exact refl _
  | some pool =>
      cases answered : env.fails .getPool with
      | some message =>
          rw [reconcile_of_unanswered r answered]
          exact refl _
      | none =>
          have read : (env.view .getPool w.api).pool request = some pool := by
            rw [faithful.fresh, stored]
          cases live : isLive pool with
          | false =>
              rw [reconcile_of_read r answered read]
              exact unobserving_reconcilePool live _
          | true =>
              exact unobserving_of_unsynced ⟨⟨answered, read, live⟩, stored⟩
                unvisited

end Visit

/-! ## The marker -/

def Action.deletes (name : String) : Action → Bool
  | .wrote (.deleteBootcNode deleted) => deleted = name
  | _ => false

section Marker

variable {c : PassContext} {budget : Option Int} {action : Action}
  {w w' : World}

theorem World.marker_putBootcNode
    {changed : String} {bn : Option BootcNode}
    (same : (bn.bind fun bn => bn.annotations.known .lastObservedState) =
      w.marker changed) :
    (w.putBootcNode changed bn).marker name = w.marker name := by
  unfold World.marker at same ⊢
  rw [World.putBootcNode_bootcNode]
  split_ifs with isChanged
  · rw [same, isChanged]
  · rfl

theorem Owns.marker {bn : BootcNode} (owns : Owns c w name bn) :
    w.marker name = bn.annotations.known .lastObservedState := by
  rw [World.marker, owns.stored, Option.bind_some]

/-- Nothing but `recordNodeEvents` changes the marker of a BootcNode. -/
theorem Effect.marker
    (effect : Effect c budget action w w')
    (unobserving : action.observes = false)
    (kept : action.deletes name = false) :
    w'.marker name = w.marker name := by
  cases effect with
  | createBootcNode _ absent _ =>
      refine World.marker_putBootcNode ?_
      rw [World.marker, absent, newBootcNode]
      dsimp only [Option.bind_some, Option.bind_none]
      split <;> simp [Annotations.empty]
  | syncSpec _ owns => exact World.marker_putBootcNode owns.marker.symm
  | deleteBootcNode _ _ _ _ =>
      have other : ¬ _ = name := of_decide_eq_false kept
      rw [World.marker, World.marker, World.putBootcNode_bootcNode,
        if_neg fun same => other same.symm]
  | markObserved _ => cases unobserving
  | approve owns _ _ =>
      exact World.marker_putBootcNode owns.toOwns.marker.symm
  | freeSlot completed _ _ =>
      refine World.marker_putBootcNode ?_
      rw [completed.toOwns.marker]
      simp [freedAnnotations]
  | clearTaint owns =>
      refine World.marker_putBootcNode ?_
      rw [owns.marker]
      simp
  | assignSlot owns _ _ _ =>
      refine World.marker_putBootcNode ?_
      rw [owns.toOwns.marker, Option.bind_some,
        slotPlan_bootcNode_known _ _ _ (by decide) (by decide) (by decide)
          (by decide)]
      unfold slotAnnotations
      dsimp only
      split_ifs <;> simp
  | _ => rfl

theorem Unobserving.invariant
    (unobserving : Unobserving s s') (before : Explained c w s.seen)
    (after : Explained c w s'.seen) (inv : World → Prop)
    (keeps : ∀ {budget action w₁ w₂}, Effect c budget action w₁ w₂ →
      action.observes = false → (∃ entry ∈ s'.log, entry.action = action) →
        inv w₁ → inv w₂) (start : inv s.world) : inv s'.world := by
  obtain ⟨done, log, unobserved⟩ := unobserving
  have current : worldAfter w s.log = s.world := before.current
  have final : worldAfter w s'.log = s'.world := after.current
  rw [← final, log, worldAfter_append, current]
  refine (invariant_of_transitions inv (fun moment entry member => ?_) start).2
  have inLog : (moment, entry) ∈ transitions w s'.log := by
    rw [log, transitions_append, current]
    exact List.mem_append_right _ member
  obtain ⟨_, _, effect⟩ := after.effect moment entry inLog
  exact keeps effect (unobserved entry (mem_of_transition member))
    ⟨entry, mem_of_transition inLog, rfl⟩

theorem Unobserving.marker
    (unobserving : Unobserving s s') (before : Explained c w s.seen)
    (after : Explained c w s'.seen)
    (kept : ∀ entry ∈ s'.log, entry.action.deletes name = false) :
    s'.world.marker name = s.world.marker name := by
  refine unobserving.invariant before after
    (fun moment => moment.marker name = s.world.marker name) ?_ rfl
  rintro _ _ w₁ w₂ effect unobserved ⟨entry, member, rfl⟩ same
  rw [effect.marker unobserved (kept entry member), same]

theorem Explained.follows
    {α : Type} {pre : PassState → Prop} {m : Pass α}
    {post : α → PassState → Prop} {exc : ApiError → PassState → Prop}
    (follows : (regime c).Follows pre m post exc) (before : pre s)
    (explained : Explained c w s.seen) :
    Explained c w (m s).2.seen :=
  Regime.chain_invariant (Explained c w)
    (fun step explained => explained.step step.loud) (follows s before).1
    explained

end Marker

section Reconcile

variable {r : BootcNodePoolReconciler} {env : Env} {request : String}
  {w : World} {visited : PassState}

theorem explained_start (c : PassContext) (w : World) :
    Explained c w (PassState.start w).seen :=
  ⟨rfl, by simp [PassState.seen, PassState.start, transitions]⟩

theorem explained_clearedState
    (c : PassContext) (env : Env) (w : World) (pool : BootcNodePool)
    (resolution : Resolution) :
    Explained c w (clearedState env w pool resolution).seen := by
  have start := explained_start c w
  unfold clearedState settledState adoptResolution
  cases resolution.answer with
  | none => exact start
  | some answer => exact start.step (.act rfl .resolve)

/-- The visit and what it leaves behind, in the context of the pass. -/
theorem explained_of_visit
    (faithful : env.Faithful w)
    (visit : visitOf r env request w = some visited) :
    Targets (r.contextOf env request w) none visited ∧
      Explained (r.contextOf env request w) w visited.seen ∧
      Explained (r.contextOf env request w) w
        (recordNodeEvents env visited).2.seen := by
  obtain ⟨pool, resolution, stored, settled, hasTarget, synced⟩ :=
    visitOf_eq_some visit
  have reads := readsLive_of_settle faithful stored settled
  have ready := ready_of_settled r faithful reads settled hasTarget
  have syncs : (regime (r.contextOf env request w)).Follows
      (Ready (r.contextOf env request w)) (r.syncMembership env)
      (fun _ s => Targets (r.contextOf env request w) none s)
      (BlamesSpec (r.contextOf env request w)) := follows_syncMembership
  have targets := syncs.returns ready synced
  have explained := Explained.follows syncs ready
    (explained_clearedState _ env w pool resolution)
  rw [synced] at explained
  have records : (regime (r.contextOf env request w)).Follows
      (Targets (r.contextOf env request w) none) (recordNodeEvents env)
      (fun _ s => Targets (r.contextOf env request w) none s) AnyError :=
    follows_recordNodeEvents
  exact ⟨targets, explained, Explained.follows records targets explained⟩

/-- An event comes from the visit of a BootcNode. -/
theorem visit_of_announcement
    (faithful : env.Faithful w) {event : String × EventNote}
    (emitted :
      event ∈ announcements name (r.reconcile env request (.start w)).2.log) :
    ∃ visited bn o, visitOf r env request w = some visited ∧
      visited.owned name = some bn ∧ bn.observation = some o ∧
      event ∈ o.announced (bn.annotations.known .lastObservedState) := by
  cases visit : visitOf r env request w with
  | none =>
      have quiet := (unobserving_of_unvisited faithful visit).announcements name
      rw [quiet] at emitted
      cases emitted
  | some visited =>
      obtain ⟨targets, _, _⟩ := explained_of_visit faithful visit
      obtain ⟨before, after⟩ := unobserving_around_visit faithful visit
      have eventsBefore : announcements name visited.log = [] :=
        before.announcements name
      rw [after.announcements name] at emitted
      cases observed : (visited.owned name).bind BootcNode.observation with
      | none =>
          have same : announcements name (recordNodeEvents env visited).2.log =
              announcements name visited.log :=
            congrArg (·.2.2) (watched_of_recordNodeEvents env
              (faithful.nodup .nodeEvents) observed)
          rw [same, eventsBefore] at emitted
          cases emitted
      | some o =>
          obtain ⟨bn, owned, isObservation⟩ :=
            Option.bind_eq_some_iff.mp observed
          have announced := announced_of_recordNodeEvents env
            (faithful.nodup .nodeEvents) (targets.reached owned .nodeEvents)
            owned (targets.owns owned).stored isObservation
          rw [announced.events, eventsBefore] at emitted
          exact ⟨visited, bn, o, rfl, owned, isObservation, emitted⟩

/-- What a pass announces about a node whose BootcNode it does not delete, and
the marker it leaves. -/
theorem announcements_of_reconcile
    (faithful : env.Faithful w)
    (kept : ∀ entry ∈ (r.reconcile env request (.start w)).2.log,
      entry.action.deletes name = false) :
    announcements name (r.reconcile env request (.start w)).2.log =
        (observedIn r env request w name).toList.flatMap
          (·.announced (w.marker name)) ∧
      (env.fails (.markObserved name) = none →
        (r.reconcile env request (.start w)).2.world.marker name =
          match observedIn r env request w name with
          | none => w.marker name
          | some o => some o.text) := by
  have explained := r.explained_of_reconcile request faithful
  have start := explained_start (r.contextOf env request w) w
  cases visit : visitOf r env request w with
  | none =>
      have unobserving := unobserving_of_unvisited faithful visit
      have nothing : observedIn r env request w name = none := by
        rw [observedIn, visit, Option.bind_none]
      rw [nothing]
      exact ⟨unobserving.announcements name,
        fun _ => unobserving.marker start explained kept⟩
  | some visited =>
      obtain ⟨targets, atVisit, atRecorded⟩ := explained_of_visit faithful visit
      obtain ⟨before, after⟩ := unobserving_around_visit faithful visit
      have isObserved : observedIn r env request w name =
          (visited.owned name).bind BootcNode.observation := by
        rw [observedIn, visit, Option.bind_some]
      -- the log up to the visit is a part of the log of the pass
      have keptBefore : ∀ entry ∈ visited.log,
          entry.action.deletes name = false := by
        intro entry member
        obtain ⟨recorded, isRecorded, _⟩ :=
          (quiet_recordNodeEvents env visited).log
        obtain ⟨done, isDone, _⟩ := after
        refine kept entry ?_
        rw [isDone, isRecorded]
        exact List.mem_append_left _ (List.mem_append_left _ member)
      have markerBefore := before.marker start atVisit keptBefore
      have markerAfter := after.marker atRecorded explained kept
      have eventsBefore : announcements name visited.log = [] :=
        before.announcements name
      rw [after.announcements name, markerAfter, isObserved]
      cases observed : (visited.owned name).bind BootcNode.observation with
      | none =>
          have same := watched_of_recordNodeEvents env
            (faithful.nodup .nodeEvents) observed
          have sameEvents : announcements name
              (recordNodeEvents env visited).2.log =
                announcements name visited.log := congrArg (·.2.2) same
          have sameStored : (recordNodeEvents env visited).2.world.api.bootcNode
              name = visited.world.api.bootcNode name := congrArg (·.2.1) same
          refine ⟨sameEvents.trans eventsBefore, fun _ => ?_⟩
          rw [World.marker, sameStored]
          exact markerBefore
      | some o =>
          obtain ⟨bn, owned, isObservation⟩ :=
            Option.bind_eq_some_iff.mp observed
          have owns := targets.owns owned
          obtain ⟨events, stored⟩ := announced_of_recordNodeEvents env
            (faithful.nodup .nodeEvents) (targets.reached owned .nodeEvents)
            owned owns.stored isObservation
          refine ⟨?_, fun succeeds => ?_⟩
          · rw [events, eventsBefore, ← owns.marker, markerBefore]
            simp [PassState.start]
          · rw [World.marker, stored]
            simp [marked, succeeds]

end Reconcile

end BootcOperator
