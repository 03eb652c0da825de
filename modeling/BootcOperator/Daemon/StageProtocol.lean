import BootcOperator.Daemon.StageOp

/-!
# Safety of the stage-operation protocol

The invariant of `StageOp.machine` over every interleaving of the reconcile
worker with the `run` calls.  Its core is that at most one operation is live,
that is, neither published nor cancelled, and that the `image` and `cancel`
fields describe exactly that operation.
-/

namespace BootcOperator

/-- The phases inside `runMu`. -/
def RunPhase.holdsRunMu : RunPhase → Bool
  | .holding | .checked | .staging | .stageReturned _ | .publishing
  | .exiting => true
  | _ => false

/-- How far a `run` call has come agrees with what it has published and
sent. -/
def RunCall.WellPhased (run : RunCall) : Prop :=
  match run.phase with
  | .publishing =>
      run.published = true ∧ run.sent = 0 ∧ run.cancelled = false
  | .exiting | .exited =>
      (run.published = true ∧ run.sent = 1 ∧ run.cancelled = false) ∨
        (run.published = false ∧ run.sent = 0 ∧ run.cancelled = true)
  | _ => run.published = false ∧ run.sent = 0

theorem RunCall.WellPhased.cancelled_of_published
    {run : RunCall} (well : run.WellPhased)
    (published : run.published = true) :
    run.cancelled = false := by
  unfold RunCall.WellPhased at well
  split at well <;> simp_all

namespace StageOp

variable {s : StageOp} {i : Nat}

/-- What every reachable stage operation satisfies. -/
structure Inv (s : StageOp) : Prop where
  wellPhased : ∀ i < s.count, (s.runs i).WellPhased
  superseded_eq : ∀ i < s.count,
    (s.runs i).superseded = (s.runs i).cancelled
  live : ∀ i < s.count, (s.runs i).published = false →
    (s.runs i).cancelled = false → s.cancel = some i
  cancel_spec : ∀ i, s.cancel = some i →
    i + 1 = s.count ∧ (s.runs i).published = false ∧
      (s.runs i).cancelled = false ∧ s.image = (s.runs i).image
  last_live : ∀ i, i + 1 = s.count → (s.runs i).cancelled = false
  image_of_cancel_none : s.cancel = none → s.image = ""
  err_of_current : s.cancel ≠ none → s.err = none
  mutex : ∀ i < s.count, (s.runs i).phase.holdsRunMu = true →
    s.runMu = some i

theorem inv_initial : Inv initial := by
  constructor <;> simp [initial]

/-- The most recently acquired operation is the current one until it
publishes. -/
theorem Inv.cancel_of_last
    (inv : Inv s) (last : i + 1 = s.count)
    (unpublished : (s.runs i).published = false) :
    s.cancel = some i :=
  inv.live i (by omega) unpublished (inv.last_live i last)

/-- Steps that change one `run` call without publishing keep the
invariant. -/
theorem Inv.changeRun
    (inv : Inv s) {run : RunCall} {runMu : Option Nat} {done : Nat}
    (image : run.image = (s.runs i).image)
    (cancelled : run.cancelled = (s.runs i).cancelled)
    (superseded : run.superseded = (s.runs i).superseded)
    (published : run.published = (s.runs i).published) (well : run.WellPhased)
    (mine : run.phase.holdsRunMu = true → runMu = some i)
    (others : ∀ j < s.count, j ≠ i →
      (s.runs j).phase.holdsRunMu = true → runMu = some j) :
    Inv { s.setRun i run with runMu := runMu, done := done } := by
  constructor
  · intro j bound
    by_cases same : j = i
    · simpa [setRun, same] using well
    · simpa [setRun, same] using inv.wellPhased j bound
  · intro j bound
    by_cases same : j = i
    · subst same
      simpa [setRun, superseded, cancelled] using
        inv.superseded_eq j bound
    · simpa [setRun, same] using inv.superseded_eq j bound
  · intro j bound
    by_cases same : j = i
    · subst same
      simpa [setRun, published, cancelled] using inv.live j bound
    · simpa [setRun, same] using inv.live j bound
  · intro j current
    have spec := inv.cancel_spec j current
    by_cases same : j = i
    · subst same
      simpa [setRun, published, cancelled, image] using spec
    · simpa [setRun, same] using spec
  · intro j last
    by_cases same : j = i
    · subst same
      simpa [setRun, cancelled] using inv.last_live j last
    · simpa [setRun, same] using inv.last_live j last
  · exact inv.image_of_cancel_none
  · exact inv.err_of_current
  · intro j bound
    by_cases same : j = i
    · subst same
      simpa [setRun] using mine
    · simpa [setRun, same] using others j bound same

/-- `Inv.changeRun` for a step that only moves the phase of a `run` call that
holds `runMu` before and after. -/
theorem Inv.changePhase
    (inv : Inv s) {phase : RunPhase} (bound : i < s.count)
    (holds : (s.runs i).phase.holdsRunMu = true)
    (well : { s.runs i with phase := phase }.WellPhased) :
    Inv (s.setPhase i phase) := by
  have owner := inv.mutex i bound holds
  exact inv.changeRun rfl rfl rfl rfl well (fun _ => owner)
    (fun j below _ held => inv.mutex j below held)

theorem Inv.acquire (inv : Inv s) (image : String) :
    Inv (s.acquire image) := by
  constructor
  · intro i bound
    by_cases fresh : i = s.count
    · simp [StageOp.acquire, fresh, acquiredRun, RunCall.WellPhased]
    · have below : i < s.count := by
        simp only [StageOp.acquire] at bound
        omega
      have well := inv.wellPhased i below
      have cancel : s.cancel = some i → (s.runs i).published = false :=
        fun current => (inv.cancel_spec i current).2.1
      simp only [StageOp.acquire, fresh, if_false, supersede]
      unfold RunCall.WellPhased at well ⊢
      by_cases current : s.cancel = some i
      · have unpublished := cancel current
        have uncancelled := (inv.cancel_spec i current).2.2.1
        simp only [current]
        split at well <;> simp_all
      · split at well <;> simp_all
  · intro i bound
    by_cases fresh : i = s.count
    · simp [StageOp.acquire, fresh, acquiredRun]
    · have below : i < s.count := by
        simp only [StageOp.acquire] at bound
        omega
      have same := inv.superseded_eq i below
      have live := inv.live i below
      have spec := inv.cancel_spec i
      have well := inv.wellPhased i below
      simp only [StageOp.acquire, fresh, if_false, supersede]
      cases published : (s.runs i).published with
      | true =>
          have notCancelled := well.cancelled_of_published published
          have notCurrent : s.cancel ≠ some i := by
            intro current
            have unpublished := (spec current).2.1
            simp [published] at unpublished
          simp [same, notCancelled, notCurrent]
      | false =>
          cases cancelled : (s.runs i).cancelled with
          | true => simp
          | false => simp [live published cancelled]
  · intro i bound
    by_cases fresh : i = s.count
    · simp [StageOp.acquire, fresh]
    · have below : i < s.count := by
        simp only [StageOp.acquire] at bound
        omega
      simp only [StageOp.acquire, fresh, if_false, supersede]
      intro unpublished uncancelled
      have live := inv.live i below unpublished
      simp_all
  · intro i current
    have last : i = s.count := by
      simpa [StageOp.acquire] using current.symm
    simp [StageOp.acquire, last, acquiredRun]
  · intro i last
    have newest : i = s.count := by
      simpa [StageOp.acquire] using last
    simp [StageOp.acquire, newest, acquiredRun]
  · simp [StageOp.acquire]
  · simp [StageOp.acquire]
  · intro i bound
    by_cases fresh : i = s.count
    · simp [StageOp.acquire, fresh, acquiredRun, RunPhase.holdsRunMu]
    · have below : i < s.count := by
        simp only [StageOp.acquire] at bound
        omega
      simpa [StageOp.acquire, fresh, supersede] using inv.mutex i below

theorem Inv.publish
    (inv : Inv s) {err : Option String} (bound : i < s.count)
    (returned : (s.runs i).phase = .stageReturned err) :
    Inv (s.publish i err) := by
  have holds : (s.runs i).phase.holdsRunMu = true := by
    simp [returned, RunPhase.holdsRunMu]
  have well := inv.wellPhased i bound
  simp only [RunCall.WellPhased, returned] at well
  unfold StageOp.publish
  cases cancelled : (s.runs i).cancelled with
  | true =>
      simp only [if_true]
      exact inv.changePhase bound holds
        (by simp [RunCall.WellPhased, well, cancelled])
  | false =>
      have current := inv.live i bound well.1 cancelled
      simp only [Bool.false_eq_true, if_false]
      constructor
      · intro j below
        by_cases same : j = i
        · simp [setRun, same, RunCall.WellPhased, well, cancelled]
        · simpa [setRun, same] using inv.wellPhased j below
      · intro j below
        by_cases same : j = i
        · subst same
          simpa [setRun] using inv.superseded_eq j below
        · simpa [setRun, same] using inv.superseded_eq j below
      · intro j below
        by_cases same : j = i
        · simp [setRun, same]
        · have notLive : s.cancel ≠ some j := by
            simpa [current] using Ne.symm same
          simp only [setRun, Function.update_of_ne same]
          intro unpublished uncancelled
          exact (notLive (inv.live j below unpublished uncancelled)).elim
      · simp
      · intro j last
        by_cases same : j = i
        · simpa [setRun, same] using cancelled
        · simpa [setRun, same] using inv.last_live j last
      · simp
      · simp
      · intro j below
        by_cases same : j = i
        · subst same
          exact fun _ => inv.mutex j below holds
        · simpa [setRun, same] using inv.mutex j below

/-- Every step of the worker or of a `run` call keeps the invariant. -/
theorem Inv.step
    {s' : StageOp} {a : Action} (inv : Inv s)
    (stepped : machine.step s a = some s') :
    Inv s' := by
  cases a with
  | takeErr =>
      cases stepped
      exact ⟨inv.wellPhased, inv.superseded_eq, inv.live,
        inv.cancel_spec, inv.last_live, inv.image_of_cancel_none,
        fun _ => rfl, inv.mutex⟩
  | reset =>
      cases stepped
      exact ⟨inv.wellPhased, inv.superseded_eq, inv.live,
        inv.cancel_spec, inv.last_live, inv.image_of_cancel_none,
        inv.err_of_current, inv.mutex⟩
  | isInFlight image =>
      cases stepped
      exact inv
  | acquire image =>
      cases stepped
      exact inv.acquire image
  | spawn i =>
      simp only [machine, StageOp.step] at stepped
      split at stepped
      · next enabled =>
          cases stepped
          have well := inv.wellPhased i enabled.1
          simp only [RunCall.WellPhased, enabled.2] at well
          exact inv.changeRun rfl rfl rfl rfl
            (by simpa [RunCall.WellPhased] using well)
            (by simp [RunPhase.holdsRunMu])
            (fun j below _ held => inv.mutex j below held)
      · cases stepped
  | lockRun i =>
      simp only [machine, StageOp.step] at stepped
      split at stepped
      · next enabled =>
          cases stepped
          have well := inv.wellPhased i enabled.1
          simp only [RunCall.WellPhased, enabled.2.1] at well
          refine inv.changeRun rfl rfl rfl rfl
            (by simpa [RunCall.WellPhased] using well) (fun _ => rfl) ?_
          intro j below _ held
          have owner := inv.mutex j below held
          simp [enabled.2.2] at owner
      · cases stepped
  | checkContext i =>
      simp only [machine, StageOp.step] at stepped
      split at stepped
      · next enabled =>
          cases stepped
          have well := inv.wellPhased i enabled.1
          simp only [RunCall.WellPhased, enabled.2] at well
          refine inv.changePhase enabled.1
            (by simp [enabled.2, RunPhase.holdsRunMu]) ?_
          cases cancelled : (s.runs i).cancelled <;>
            simp [RunCall.WellPhased, well, cancelled]
      · cases stepped
  | startStage i =>
      simp only [machine, StageOp.step] at stepped
      split at stepped
      · next enabled =>
          cases stepped
          have well := inv.wellPhased i enabled.1
          simp only [RunCall.WellPhased, enabled.2] at well
          exact inv.changePhase enabled.1
            (by simp [enabled.2, RunPhase.holdsRunMu])
            (by simpa [RunCall.WellPhased] using well)
      · cases stepped
  | stageReturns i err =>
      simp only [machine, StageOp.step] at stepped
      split at stepped
      · next enabled =>
          cases stepped
          have well := inv.wellPhased i enabled.1
          simp only [RunCall.WellPhased, enabled.2] at well
          exact inv.changePhase enabled.1
            (by simp [enabled.2, RunPhase.holdsRunMu])
            (by simpa [RunCall.WellPhased] using well)
      · cases stepped
  | publish i =>
      simp only [machine, StageOp.step] at stepped
      split at stepped
      · next returned =>
          split at stepped
          · next bound =>
              cases stepped
              exact inv.publish bound returned
          · cases stepped
      · cases stepped
  | send i =>
      simp only [machine, StageOp.step] at stepped
      split at stepped
      · next enabled =>
          cases stepped
          have well := inv.wellPhased i enabled.1
          have owner := inv.mutex i enabled.1
            (by simp [enabled.2.1, RunPhase.holdsRunMu])
          simp only [RunCall.WellPhased, enabled.2.1] at well
          exact inv.changeRun rfl rfl rfl rfl
            (by simp [RunCall.WellPhased, well])
            (fun _ => owner)
            (fun j below _ held => inv.mutex j below held)
      · cases stepped
  | unlockRun i =>
      simp only [machine, StageOp.step] at stepped
      split at stepped
      · next enabled =>
          cases stepped
          have well := inv.wellPhased i enabled.1
          have owner := inv.mutex i enabled.1
            (by simp [enabled.2, RunPhase.holdsRunMu])
          simp only [RunCall.WellPhased, enabled.2] at well
          refine inv.changeRun rfl rfl rfl rfl
            (by simpa [RunCall.WellPhased] using well)
            (by simp [RunPhase.holdsRunMu]) ?_
          intro j below different held
          have other := inv.mutex j below held
          rw [owner, Option.some.injEq] at other
          exact (different other.symm).elim
      · cases stepped
  | receive =>
      simp only [machine, StageOp.step] at stepped
      split at stepped
      · cases stepped
        exact ⟨inv.wellPhased, inv.superseded_eq, inv.live,
          inv.cancel_spec, inv.last_live, inv.image_of_cancel_none,
          inv.err_of_current, inv.mutex⟩
      · cases stepped

theorem inv_of_reaches (reached : machine.Reaches initial s) : Inv s :=
  reached.invariant Inv (fun inv stepped => inv.step stepped) inv_initial

/-- The step of a `run` call whose context is cancelled leaves the shared
fields and the channel alone. -/
theorem Inv.step_of_superseded
    {s' : StageOp} {a : Action} (inv : Inv s)
    (stepped : machine.step s a = some s') (mine : a.runOf = some i)
    (superseded : (s.runs i).superseded = true) (bound : i < s.count) :
    s'.image = s.image ∧ s'.cancel = s.cancel ∧ s'.err = s.err ∧
      s'.done = s.done ∧ (s'.runs i).sent = (s.runs i).sent := by
  have cancelled : (s.runs i).cancelled = true :=
    (inv.superseded_eq i bound).symm.trans superseded
  have well := inv.wellPhased i bound
  cases a <;>
    simp only [Action.runOf, Option.some.injEq, reduceCtorEq] at mine <;>
    subst mine <;>
    simp only [machine, StageOp.step] at stepped
  case publish i =>
    split at stepped
    · rw [if_pos bound] at stepped
      cases stepped
      simp [StageOp.publish, cancelled, setPhase, setRun]
    · cases stepped
  case send i =>
    split at stepped
    · next enabled =>
        simp [RunCall.WellPhased, enabled.2.1, cancelled] at well
    · cases stepped
  all_goals
    split at stepped
    · cases stepped
      simp [setPhase, setRun]
    · cases stepped

/-- In every reachable state of the stage-operation protocol at most one
`Executor.Stage` call is executing; a superseded operation has never sent and
its steps leave `image`, `cancel`, `err` and the channel alone; an operation
that was not superseded has published and sent exactly once when its `run`
call returns; and `image` and `cancel` describe the most recently acquired
operation while it has not published. -/
theorem stage_operation_protocol
    {s : StageOp} (reached : machine.Reaches initial s) :
    (∀ i < s.count, ∀ j < s.count,
      (s.runs i).phase = .staging → (s.runs j).phase = .staging → i = j) ∧
    (∀ i < s.count, (s.runs i).superseded = true →
      (s.runs i).published = false ∧ (s.runs i).sent = 0 ∧
        ∀ a s', a.runOf = some i → machine.step s a = some s' →
          s'.image = s.image ∧ s'.cancel = s.cancel ∧ s'.err = s.err ∧
            s'.done = s.done ∧ (s'.runs i).sent = (s.runs i).sent) ∧
    (∀ i < s.count, (s.runs i).superseded = false →
      (s.runs i).phase = .exited →
        (s.runs i).published = true ∧ (s.runs i).sent = 1) ∧
    ((∀ i < s.count, (s.runs i).image ≠ "") →
      (s.image ≠ "" ↔ s.cancel ≠ none) ∧
      (s.cancel ≠ none ↔
        ∃ i, i + 1 = s.count ∧ (s.runs i).published = false) ∧
      ∀ i, i + 1 = s.count → (s.runs i).published = false →
        s.image = (s.runs i).image) := by
  have inv := inv_of_reaches reached
  refine ⟨?_, ?_, ?_, ?_⟩
  · intro i boundI j boundJ stagingI stagingJ
    have ownerI := inv.mutex i boundI
      (by simp [stagingI, RunPhase.holdsRunMu])
    have ownerJ := inv.mutex j boundJ
      (by simp [stagingJ, RunPhase.holdsRunMu])
    simpa [ownerI] using ownerJ
  · intro i bound superseded
    have well := inv.wellPhased i bound
    have cancelled : (s.runs i).cancelled = true :=
      (inv.superseded_eq i bound).symm.trans superseded
    refine ⟨?_, ?_, ?_⟩
    · cases published : (s.runs i).published with
      | false => rfl
      | true =>
          simp [well.cancelled_of_published published] at cancelled
    · unfold RunCall.WellPhased at well
      split at well <;> simp_all
    · intro a s' mine stepped
      exact inv.step_of_superseded stepped mine superseded bound
  · intro i bound kept exited
    have well := inv.wellPhased i bound
    have notCancelled : (s.runs i).cancelled = false :=
      (inv.superseded_eq i bound).symm.trans kept
    simp only [RunCall.WellPhased, exited, notCancelled] at well
    simpa using well
  · intro nonempty
    refine ⟨?_, ?_, ?_⟩
    · constructor
      · intro hasImage noCancel
        exact hasImage (inv.image_of_cancel_none noCancel)
      · intro hasCancel
        obtain ⟨i, current⟩ := Option.ne_none_iff_exists'.mp hasCancel
        obtain ⟨last, _, _, sameImage⟩ := inv.cancel_spec i current
        rw [sameImage]
        exact nonempty i (by omega)
    · constructor
      · intro hasCancel
        obtain ⟨i, current⟩ := Option.ne_none_iff_exists'.mp hasCancel
        obtain ⟨last, unpublished, _⟩ := inv.cancel_spec i current
        exact ⟨i, last, unpublished⟩
      · rintro ⟨i, last, unpublished⟩
        simp [inv.cancel_of_last last unpublished]
    · intro i last unpublished
      exact (inv.cancel_spec i (inv.cancel_of_last last unpublished)).2.2.2

/-- A second operation supersedes the first while `bootc switch` runs. -/
def supersedingRun : List Action :=
  [.acquire "a", .spawn 0, .lockRun 0, .checkContext 0, .startStage 0,
    .acquire "b", .spawn 1, .stageReturns 0 (some "killed"), .publish 0,
    .unlockRun 0, .lockRun 1, .checkContext 1, .startStage 1,
    .stageReturns 1 none, .publish 1, .send 1, .unlockRun 1]

/-- The second of two stages supersedes the first. -/
theorem stage_operation_protocol_superseding :
    ∃ s, machine.run initial supersedingRun = some s ∧
      ((s.runs 0).superseded = true ∧ (s.runs 0).sent = 0) ∧
      (s.runs 1).phase = .exited ∧
      (s.runs 1).published = true ∧ (s.runs 1).sent = 1 := by
  refine ⟨_, rfl, ?_⟩
  have protocol := stage_operation_protocol ⟨supersedingRun, rfl⟩
  refine ⟨⟨rfl, ?_⟩, rfl, ?_⟩
  · exact (protocol.2.1 0 (by decide) rfl).2.1
  · exact protocol.2.2.1 1 (by decide) rfl rfl

end StageOp

end BootcOperator
