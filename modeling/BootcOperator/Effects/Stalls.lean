import BootcOperator.Effects.Rollout

/-!
# Stalled drains

`recordDrainStalls` marks first and reports afterwards, so in its middle a
mark without a report is nothing unusual.  `StallsReported` says what it has
done when it is over, and `PassStep` takes it as one step of a pass.
-/

namespace BootcOperator

open Program

/-- The event that the drain takes too long. -/
def Action.warnsStall (name : String) : Action → Bool
  | .event recorded =>
      recorded.note.isStall && recorded.regarding = .bootcNode name
  | _ => false

/-- The number of warnings since the drain of the node was started. -/
def warningsAfter (name : String) (warnings : Nat) (log : List Entry) : Nat :=
  log.foldl
    (fun count entry =>
      if entry.action.startsDrain name then 0
      else count + (entry.action.warnsStall name).toNat) warnings

theorem warningsAfter_append
    (name : String) (warnings : Nat) (log later : List Entry) :
    warningsAfter name warnings (log ++ later) =
      warningsAfter name (warningsAfter name warnings log) later :=
  List.foldl_append

/-- The flag is set once the drain is overdue. -/
def DrainStatus.mark (now : Time) (status : DrainStatus) : DrainStatus :=
  if status.isOverdue now then { status with isStalled := true } else status

theorem DrainStatus.isOverdue_mark (now : Time) (status : DrainStatus) :
    (status.mark now).isOverdue now = false := by
  unfold DrainStatus.mark
  cases overdue : status.isOverdue now with
  | true => simp [DrainStatus.isOverdue]
  | false => simpa using overdue

/-- The drain is overdue and of a node of the pool. -/
def isReported (c : PassContext) (w : World) (name : String) : Bool :=
  (w.drains name).any (·.isOverdue c.env.now) &&
    (w.api.bootcNode name).any (·.isControlledBy c.pool)

/-- What `recordDrainStalls` does: it marks every overdue drain, and it warns
once about each that is of a node of the pool. -/
structure StallsReported (c : PassContext) (seen seen' : Seen) : Prop where
  api : seen'.world.api = seen.world.api
  drains : ∀ name, seen'.world.drains name =
    (seen.world.drains name).map (·.mark c.env.now)
  warnings : ∀ name count, warningsAfter name count seen'.log =
    warningsAfter name count seen.log + (isReported c seen.world name).toNat

/-- The steps of a pass, with `recordDrainStalls` as one step. -/
inductive PassStep (c : PassContext) : Seen → Seen → Prop
  | quiet {seen seen' : Seen} : Step c false seen seen' → PassStep c seen seen'
  | stalls {seen seen' : Seen} :
      Relation.ReflTransGen (Step c true) seen seen' →
      StallsReported c seen seen' → PassStep c seen seen'

section

variable {c : PassContext} {seen seen' : Seen}

theorem Step.loud {loud : Bool} (step : Step c loud seen seen') :
    Step c true seen seen' := by
  cases step with
  | act _ effect => exact .act rfl effect
  | halt unresolved collected => exact .halt unresolved collected
  | resolveMaxUnavailable unresolved unhalted collected resolved =>
      exact .resolveMaxUnavailable unresolved unhalted collected resolved

theorem PassStep.steps (step : PassStep c seen seen') :
    Relation.ReflTransGen (Step c true) seen seen' := by
  cases step with
  | quiet step => exact .single step.loud
  | stalls steps _ => exact steps

theorem PassStep.log_prefix (step : PassStep c seen seen') :
    seen.log <+: seen'.log := by
  have steps := step.steps
  clear step
  induction steps with
  | refl => exact List.prefix_rfl
  | tail _ step ih =>
      cases step with
      | act _ _ => exact ih.trans (List.prefix_append _ _)
      | halt _ _ => exact ih
      | resolveMaxUnavailable _ _ _ _ => exact ih

abbrev passRegime (c : PassContext) : Program.Regime PassState Seen :=
  observing (PassStep c)

theorem passRegime_follows
    {α : Type} {pre : PassState → Prop} {m : Pass α}
    {post : α → PassState → Prop} {exc : ApiError → PassState → Prop}
    (follows : (regime c).Follows pre m post exc) :
    (passRegime c).Follows pre m post exc :=
  follows.mono .quiet

end

namespace BootcNodePoolReconciler

section Stalls

variable {c : PassContext} {start : PassState}
  {exc : ApiError → PassState → Prop}

variable {done stalled : List String} {name : String}

/-- The first loop, after the drains of `done`. -/
structure Marking (c : PassContext) (start : PassState) (done : List String)
    (stalled : List String) (s : PassState) : Prop extends Recalls c s where
  api : s.world.api = start.world.api
  marked : ∀ name ∈ done, s.world.drains name =
    (start.world.drains name).map (·.mark c.env.now)
  unmarked : ∀ name, name ∉ done →
    s.world.drains name = start.world.drains name
  reported : stalled = done.filter (isReported c start.world)
  warnings : ∀ name count,
    warningsAfter name count s.log = warningsAfter name count start.log

theorem isOverdue_iff
    {status : DrainStatus} {now : Time} :
    status.isOverdue now = true ↔
      ¬ (status.isStalled = true ∨
        0 < drainStallThreshold - (now - status.startTime)) := by
  unfold DrainStatus.isOverdue
  rw [decide_eq_true_eq, not_or, Bool.not_eq_true]
  refine and_congr_right fun _ => ?_
  rw [Int.not_lt]
  exact ⟨Int.sub_nonpos_of_le, Int.le_of_sub_nonpos⟩

/-- An iteration that leaves the drain of its node as it is. -/
theorem Marking.skip
    {s : PassState} (marking : Marking c start done stalled s)
    (fresh : name ∉ done)
    (onTime : (start.world.drains name).any (·.isOverdue c.env.now) = false) :
    Marking c start (done ++ [name]) (stalled ++ []) s := by
  have kept : (start.world.drains name).map (·.mark c.env.now) =
      start.world.drains name := by
    cases entry : start.world.drains name with
    | none => rfl
    | some status =>
        rw [entry, Option.any_some] at onTime
        simp [DrainStatus.mark, onTime]
  refine ⟨marking.toRecalls, marking.api, fun other member => ?_,
    fun other absent => ?_, ?_, marking.warnings⟩
  · rcases List.mem_append.mp member with earlier | last
    · exact marking.marked other earlier
    · rw [List.mem_singleton.mp last, kept]
      exact marking.unmarked name fresh
  · exact marking.unmarked other fun earlier =>
      absent (List.mem_append_left _ earlier)
  · simp [marking.reported, isReported, onTime]

/-- An iteration that marks the drain of its node. -/
theorem Marking.mark
    {status : DrainStatus} {s : PassState}
    (marking : Marking c start done stalled s)
    (entry : start.world.drains name = some status)
    (overdue : status.isOverdue c.env.now = true) :
    Marking c start (done ++ [name])
      (stalled ++ if (s.owned name).isSome then [name] else [])
      (s.perform (.stallDrain name)
        (s.world.putDrain name (some { status with isStalled := true }))) := by
  have isMark : (start.world.drains name).map (·.mark c.env.now) =
      some { status with isStalled := true } := by
    simp [entry, DrainStatus.mark, overdue]
  have isOwned : (s.owned name).isSome =
      (start.world.api.bootcNode name).any (·.isControlledBy c.pool) := by
    rw [marking.owned name, marking.api]
    cases start.world.api.bootcNode name with
    | none => rfl
    | some bn =>
        cases controlled : bn.isControlledBy c.pool <;>
          simp [Option.filter_some, controlled]
  refine ⟨⟨marking.target, marking.owned⟩, marking.api,
    fun other member => ?_, fun other absent => ?_, ?_,
    fun other count => ?_⟩
  · by_cases same : other = name
    · rw [same, isMark]
      exact World.putDrain_self ..
    · have earlier : other ∈ done := by simpa [same] using member
      exact (World.putDrain_of_ne _ same _).trans
        (marking.marked other earlier)
  · have different : other ∉ done ∧ other ≠ name := by simpa using absent
    exact (World.putDrain_of_ne _ different.2 _).trans
      (marking.unmarked other different.1)
  · rw [marking.reported, isOwned, List.filter_append]
    simp [isReported, entry, overdue, List.filter_cons]
  · rw [← marking.warnings other count]
    exact warningsAfter_append other count s.log _

theorem follows_markStall (fresh : name ∉ done) :
    (observing (Step c true)).Follows (Marking c start done stalled)
      (markStall c.env name)
      (fun more s => Marking c start (done ++ [name]) (stalled ++ more) s)
      exc := by
  refine .bindReadOf (· = start.world.drains name)
    (fun s marking => marking.unmarked name fresh) fun found isFound => ?_
  subst isFound
  cases entry : start.world.drains name with
  | none =>
      exact .ret fun s before => before.1.skip fresh (by simp [entry])
  | some status =>
      refine .ite (fun onTime => .ret fun s before =>
        before.1.skip fresh ?_) fun late => ?_
      · rw [entry, Option.any_some, Bool.eq_false_iff]
        exact fun overdue => isOverdue_iff.mp overdue onTime
      have overdue : status.isOverdue c.env.now = true :=
        isOverdue_iff.mpr late
      refine .bindVia
        (fun _ s => Marking c start (done ++ [name])
          (stalled ++ if (s.owned name).isSome then [name] else []) s)
        (.step (fun s before => .act rfl (.stallDrain before.2 overdue))
          fun s before => before.1.mark entry overdue) fun _ => ?_
      refine .bindRead fun owned => .ret fun s after => ?_
      rw [← after.2]
      exact after.1

/-- The second loop, after the events for `done`. -/
structure Warning (c : PassContext) (start : PassState) (done : List String)
    (s : PassState) : Prop extends Recalls c s where
  api : s.world.api = start.world.api
  drains : ∀ name, s.world.drains name =
    (start.world.drains name).map (·.mark c.env.now)
  warnings : ∀ name count, warningsAfter name count s.log =
    warningsAfter name count start.log + (decide (name ∈ done)).toNat

theorem follows_warnStall (fresh : name ∉ done) :
    (observing (Step c true)).Follows (Warning c start done)
      (recordNodeEvent name .warning eventReasonDrainTakingTooLong
        eventActionDrain (.drainStalled drainStallThreshold))
      (fun _ s => Warning c start (done ++ [name]) s) exc := by
  refine .bindRead fun pool => follows_note (fun _ _ => .act rfl .event)
    fun s before => ?_
  refine ⟨⟨before.1.target, before.1.owned⟩, before.1.api, before.1.drains,
    fun other count => ?_⟩
  refine (warningsAfter_append other count s.log _).trans ?_
  rw [before.1.warnings]
  by_cases same : name = other
  · subst same
    simp [warningsAfter, Action.startsDrain, Action.warnsStall,
      EventNote.isStall, fresh]
  · have different : other ≠ name := fun equal => same equal.symm
    simp [warningsAfter, Action.startsDrain, Action.warnsStall,
      EventNote.isStall, same, different]

theorem follows_recordDrainStalls
    (within : start.world.Within (c.env.order .drainStalls))
    (nodup : (c.env.order .drainStalls).Nodup) :
    (observing (Step c true)).Follows
      (fun s => s = start ∧ Recalls c s) (recordDrainStalls c.env)
      (fun _ s => Recalls c s ∧ StallsReported c start.seen s.seen) exc := by
  have distinct : ∀ done name rest,
      c.env.order .drainStalls = done ++ name :: rest → name ∉ done := by
    intro done name rest split member
    rw [split] at nodup
    exact (List.nodup_append.mp nodup).2.2 name member name (by simp) rfl
  refine .bindRead fun drains => ?_
  refine .bindVia
    (fun stalled s => Marking c start (c.env.order .drainStalls) stalled s)
    ?_ fun stalled => ?_
  · refine .conseq (.gather (Marking c start)
      fun done name rest stalled split =>
        follows_markStall (distinct done name rest split))
      ?_ (fun _ _ after => after) fun _ _ after => after
    rintro s ⟨⟨rfl, recalls⟩, _⟩
    exact ⟨recalls, rfl, by simp, fun _ _ => rfl, rfl, fun _ _ => rfl⟩
  refine .know
    (stalled = (c.env.order .drainStalls).filter (isReported c start.world))
    (fun s marking => marking.reported) fun isStalled => ?_
  have nodupStalled : stalled.Nodup := isStalled ▸ nodup.filter _
  refine .bindVia (fun _ => Warning c start stalled) ?_ fun _ => ?_
  · refine .conseq (.forEach (Warning c start) fun done name rest split =>
      follows_warnStall ?_)
      (fun s marking => ⟨marking.toRecalls, marking.api, fun name => ?_,
        fun name count => ?_⟩)
      (fun _ _ after => after) fun _ _ after => after
    · rw [split] at nodupStalled
      exact fun member =>
        (List.nodup_append.mp nodupStalled).2.2 name member name (by simp) rfl
    · by_cases member : name ∈ c.env.order .drainStalls
      · exact marking.marked name member
      · have absent : start.world.drains name = none := by
          by_contra present
          exact member (within.drain name present)
        rw [marking.unmarked name member, absent]
        rfl
    · simp [marking.warnings]
  · refine .ret fun s warning => ⟨warning.toRecalls, warning.api,
      warning.drains, fun name count => ?_⟩
    refine (warning.warnings name count).trans ?_
    have isWarned : decide (name ∈ stalled) =
        isReported c start.world name := by
      rw [isStalled, Bool.eq_iff_iff, decide_eq_true_eq, List.mem_filter]
      refine ⟨fun member => member.2, fun reported => ⟨?_, reported⟩⟩
      refine within.drain name fun absent => ?_
      simp [isReported, absent] at reported
    rw [isWarned]
    rfl

end Stalls

end BootcNodePoolReconciler

end BootcOperator
